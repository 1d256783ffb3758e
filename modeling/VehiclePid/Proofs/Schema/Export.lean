import VehiclePid.Proofs.Dictionary
import VehiclePid.Proofs.Key
import VehiclePid.Proofs.Schema.Loading
import VehiclePid.Schema.Yaml

namespace VehiclePid.Schema

def lastByKey : List Record → List Record
  | [] => []
  | x :: xs => if x.key ∈ xs.map Record.key then lastByKey xs else x :: lastByKey xs

def last? (xs : List Record) (key : Key) : Option Record := xs.reverse.find? (·.key == key)

variable {format : FileFormat} {s t : Schema} {f : File} {x : Record} {xs : List Record} {key : Key}
  {modes modes' : Dictionary (Dictionary Entry)} {texts : String × String} {e : Entry}

theorem last?_cons (x : Record) (xs : List Record) (key : Key) :
    last? (x :: xs) key = (last? xs key).or (if x.key = key then some x else none) := by
  rw [last?, List.reverse_cons, List.find?_append, List.find?_singleton]
  simp [last?]

theorem key_eq_of_last? (h : last? xs key = some x) : x.key = key := by
  simpa using List.find?_some h

theorem last?_eq_none_iff : last? xs key = none ↔ key ∉ xs.map Record.key := by
  simp [last?, List.find?_eq_none]

theorem mem_lastByKey : x ∈ lastByKey xs ↔ last? xs x.key = some x := by
  induction xs with
  | nil => simp [lastByKey, last?]
  | cons y xs ih =>
    rw [lastByKey, last?_cons]
    split
    · rename_i hy
      rw [ih]
      cases hl : last? xs x.key with
      | none =>
        have hne : y.key ≠ x.key := fun he => last?_eq_none_iff.mp hl (he ▸ hy)
        simp [hne]
      | some z => simp
    · rename_i hy
      rw [List.mem_cons, ih]
      have hn := last?_eq_none_iff.mpr hy
      by_cases he : y.key = x.key
      · rw [← he, hn]
        simp [eq_comm]
      · have hne : x ≠ y := fun h => he (h ▸ rfl)
        simp [he, hne]

theorem nodup_lastByKey (xs : List Record) : ((lastByKey xs).map Record.key).Nodup := by
  induction xs with
  | nil => exact List.nodup_nil
  | cons x xs ih =>
    rw [lastByKey]
    split
    · exact ih
    · rename_i hx
      rw [List.map_cons, List.nodup_cons]
      refine ⟨fun hm => hx ?_, ih⟩
      obtain ⟨y, hy, he⟩ := List.mem_map.mp hm
      have hy := List.mem_of_find?_eq_some (mem_lastByKey.mp hy)
      exact List.mem_map.mpr ⟨y, List.mem_reverse.mp hy, he⟩

theorem lastByKey_eq_self (h : (xs.map Record.key).Nodup) : lastByKey xs = xs := by
  induction xs with
  | nil => rfl
  | cons x xs ih =>
    rw [List.map_cons, List.nodup_cons] at h
    rw [lastByKey, if_neg h.1, ih h.2]

theorem last?_of_nodup (h : (xs.map Record.key).Nodup) :
    last? xs key = some x ↔ x ∈ xs ∧ x.key = key := by
  rw [← List.nodup_reverse, ← List.map_reverse] at h
  rw [last?, find?_key_eq_some_iff h, List.mem_reverse]

theorem last?_sortByKey (xs : List Record) (key : Key) :
    last? (sortByKey (lastByKey xs)) key = last? xs key := by
  have hp := sortByKey_perm (lastByKey xs)
  have hn := (hp.map Record.key).nodup_iff.mpr (nodup_lastByKey xs)
  apply Option.ext
  intro x
  rw [last?_of_nodup hn, hp.mem_iff, mem_lastByKey]
  constructor
  · rintro ⟨hx, rfl⟩
    exact hx
  · intro hx
    have hk := key_eq_of_last? hx
    exact ⟨hk ▸ hx, hk⟩

def stored? (modes : Dictionary (Dictionary Entry)) (texts : String × String) : Option Entry :=
  (modes.get? texts.1).bind (·.get? texts.2)

def put (modes : Dictionary (Dictionary Entry)) (x : Record) : Dictionary (Dictionary Entry) :=
  modes.insert (Hex.byte x.key.mode)
    (((modes.get? (Hex.byte x.key.mode)).getD .empty).insert (Hex.byte x.key.pid) (.ofRecord x))

theorem stored?_empty (texts : String × String) : stored? .empty texts = none := rfl

theorem modes_toFile (s : Schema) : s.toFile.modes = s.records.foldl put .empty := rfl

theorem stored?_put (modes : Dictionary (Dictionary Entry)) (x : Record) (texts : String × String) :
    stored? (put modes x) texts =
      if texts = x.key.texts then some (.ofRecord x) else stored? modes texts := by
  obtain ⟨mode, pid⟩ := texts
  rw [stored?, put, Dictionary.get?_insert]
  by_cases hm : mode = Hex.byte x.key.mode
  · rw [if_pos hm, Option.bind_some, Dictionary.get?_insert]
    by_cases hp : pid = Hex.byte x.key.pid
    · simp [hm, hp, Key.texts]
    · have hn : (.empty : Dictionary Entry).get? pid = none := rfl
      cases hd : modes.get? (Hex.byte x.key.mode) <;> simp [hm, hp, hn, Key.texts, stored?, hd]
  · simp [hm, Key.texts, stored?]

theorem stored?_foldl_put (xs : List Record) (modes : Dictionary (Dictionary Entry))
    (texts : String × String) :
    stored? (xs.foldl put modes) texts =
      ((xs.reverse.find? (·.key.texts == texts)).map Entry.ofRecord).or (stored? modes texts) := by
  induction xs generalizing modes with
  | nil => rfl
  | cons x xs ih =>
    rw [List.foldl_cons, ih, stored?_put, List.reverse_cons, List.find?_append,
      List.find?_singleton]
    by_cases h : x.key.texts = texts
    · cases xs.reverse.find? (·.key.texts == texts) <;> simp [h]
    · cases xs.reverse.find? (·.key.texts == texts) <;> simp [h, Ne.symm h]

theorem stored?_toFile (s : Schema) (key : Key) :
    stored? s.toFile.modes key.texts = (last? s.records key).map Entry.ofRecord := by
  have hk : ∀ x : Record, (x.key.texts == key.texts) = (x.key == key) := by
    intro x
    rw [Bool.eq_iff_iff, beq_iff_eq, beq_iff_eq]
    exact ⟨Key.texts_injective, congrArg Key.texts⟩
  rw [modes_toFile, stored?_foldl_put, stored?_empty, Option.or_none, last?]
  simp [hk]

theorem exists_texts_of_stored? (h : stored? s.toFile.modes texts = some e) :
    ∃ key : Key, texts = key.texts := by
  rw [modes_toFile, stored?_foldl_put, stored?_empty, Option.or_none] at h
  cases hf : s.records.reverse.find? (·.key.texts == texts) with
  | none => simp [hf] at h
  | some x =>
    have hk : x.key.texts = texts := by simpa using List.find?_some hf
    exact ⟨x.key, hk.symm⟩

def Populated (modes : Dictionary (Dictionary Entry)) : Prop :=
  ∀ mode entries, modes.get? mode = some entries → ∃ pid e, entries.get? pid = some e

theorem Populated.put (h : Populated modes) (x : Record) : Populated (put modes x) := by
  intro mode entries hm
  rw [Schema.put, Dictionary.get?_insert] at hm
  split at hm
  · cases hm
    refine ⟨Hex.byte x.key.pid, .ofRecord x, ?_⟩
    rw [Dictionary.get?_insert, if_pos rfl]
  · exact h mode entries hm

theorem Populated.foldl_put (h : Populated modes) (xs : List Record) :
    Populated (xs.foldl Schema.put modes) := by
  induction xs generalizing modes with
  | nil => exact h
  | cons x xs ih => exact ih (h.put x)

theorem populated_toFile (s : Schema) : Populated s.toFile.modes := by
  have he : Populated .empty := nofun
  exact he.foldl_put s.records

theorem Populated.ext (h : Populated modes) (h' : Populated modes')
    (he : ∀ texts, stored? modes texts = stored? modes' texts) : modes = modes' := by
  apply Dictionary.ext_get?
  intro mode
  cases hm : modes.get? mode with
  | none =>
    cases hm' : modes'.get? mode with
    | none => rfl
    | some entries =>
      obtain ⟨pid, e, hp⟩ := h' mode entries hm'
      have := he (mode, pid)
      simp [stored?, hm, hm', hp] at this
  | some entries =>
    cases hm' : modes'.get? mode with
    | none =>
      obtain ⟨pid, e, hp⟩ := h mode entries hm
      have := he (mode, pid)
      simp [stored?, hm, hm', hp] at this
    | some entries' =>
      refine congrArg some (Dictionary.ext_get? fun pid => ?_)
      have := he (mode, pid)
      simpa [stored?, hm, hm'] using this

theorem mem_entries_iff {mode pid : String} :
    (mode, pid, e) ∈ f.entries ↔ stored? f.modes (mode, pid) = some e := by
  rw [File.entries, List.mem_flatten, stored?, Option.bind_eq_some_iff]
  constructor
  · rintro ⟨l, hl, he⟩
    obtain ⟨m, hm, rfl⟩ := List.mem_map.mp hl
    obtain ⟨p, hp, he⟩ := List.mem_map.mp he
    cases he
    exact ⟨m.2, Dictionary.mem_entries_iff.mp hm, Dictionary.mem_entries_iff.mp hp⟩
  · rintro ⟨entries, hm, hp⟩
    refine ⟨_, List.mem_map.mpr ⟨(mode, entries), Dictionary.mem_entries_iff.mpr hm, rfl⟩, ?_⟩
    exact List.mem_map.mpr ⟨(pid, e), Dictionary.mem_entries_iff.mpr hp, rfl⟩

theorem pairwise_entries (f : File) :
    f.entries.Pairwise fun a b => (a.1, a.2.1) ≠ (b.1, b.2.1) := by
  have hne : ∀ {x y : String}, x < y → x ≠ y := by
    rintro x y h rfl
    exact String.lt_irrefl x h
  rw [File.entries, List.pairwise_flatten]
  constructor
  · intro l hl
    obtain ⟨m, -, rfl⟩ := List.mem_map.mp hl
    rw [List.pairwise_map]
    exact m.2.sorted.imp fun h he => hne h (Prod.mk.inj he).2
  · rw [List.pairwise_map]
    refine f.modes.sorted.imp fun h a ha b hb he => ?_
    obtain ⟨p, -, rfl⟩ := List.mem_map.mp ha
    obtain ⟨q, -, rfl⟩ := List.mem_map.mp hb
    exact hne h (Prod.mk.inj he).1

theorem keyOf?_texts (key : Key) (e : Entry) :
    keyOf? (key.texts.1, key.texts.2, e) = some key := by
  rw [keyOf?, Key.texts, parseId_byte, parseId_byte]

theorem exists_key_of_mem {a : String × String × Entry} (h : a ∈ s.toFile.entries) :
    ∃ key : Key, (a.1, a.2.1) = key.texts ∧ keyOf? a = some key := by
  obtain ⟨mode, pid, e⟩ := a
  obtain ⟨key, hk⟩ := exists_texts_of_stored? (mem_entries_iff.mp h)
  obtain ⟨rfl, rfl⟩ := Prod.mk.inj hk
  exact ⟨key, rfl, keyOf?_texts key e⟩

theorem nodup_keyOf?_toFile (s : Schema) : (s.toFile.entries.map keyOf?).Nodup := by
  rw [List.Nodup, List.pairwise_map]
  refine (pairwise_entries s.toFile).imp_of_mem fun {a b} ha hb hne he => hne ?_
  obtain ⟨k, hk, hka⟩ := exists_key_of_mem ha
  obtain ⟨l, hl, hlb⟩ := exists_key_of_mem hb
  have hkl : k = l := Option.some.inj (hka.symm.trans (he.trans hlb))
  rw [hk, hl, hkl]

theorem keysRead_toFile (s : Schema) : s.toFile.KeysRead := by
  intro m hm
  have hm := Dictionary.mem_entries_iff.mp hm
  have read : ∀ pid e, m.2.get? pid = some e → ∃ key : Key, (m.1, pid) = key.texts := by
    intro pid e hp
    apply exists_texts_of_stored? (e := e)
    rw [stored?, hm, Option.bind_some, hp]
  constructor
  · obtain ⟨pid, e, hp⟩ := populated_toFile s m.1 m.2 hm
    obtain ⟨key, hk⟩ := read pid e hp
    exact ⟨key.mode, (Prod.mk.inj hk).1 ▸ parseId_byte key.mode⟩
  · intro p hp
    obtain ⟨key, hk⟩ := read p.1 p.2 (Dictionary.mem_entries_iff.mp hp)
    exact ⟨key.pid, (Prod.mk.inj hk).2 ▸ parseId_byte key.pid⟩

theorem denotes_toFile_iff :
    (∃ a ∈ s.toFile.entries, Denotes a x) ↔ last? s.records x.key = some x := by
  constructor
  · rintro ⟨a, ha, hx⟩
    obtain ⟨key, ht, hk⟩ := exists_key_of_mem ha
    obtain rfl : key = x.key := Option.some.inj (hk.symm.trans hx.keyOf?_eq)
    have he := mem_entries_iff.mp ha
    rw [ht, stored?_toFile, Option.map_eq_some_iff] at he
    obtain ⟨y, hy, he⟩ := he
    have hxy : x = y := by
      rw [hx.record_eq, ← he, ← key_eq_of_last? hy]
      rfl
    exact hxy ▸ hy
  · intro hx
    refine ⟨(x.key.texts.1, x.key.texts.2, .ofRecord x), mem_entries_iff.mpr ?_, ?_⟩
    · exact (stored?_toFile s x.key).trans (congrArg (Option.map Entry.ofRecord) hx)
    · exact denotes_iff.mpr ⟨keyOf?_texts x.key _, rfl⟩

/-- What an exported file is loaded as. -/
def reloaded (s : Schema) : Schema := { s with records := sortByKey (lastByKey s.records) }

theorem ofFile_toFile (s : Schema) :
    ofFile s.toFile = (s.addressing.responseId.mapError .addressing).map fun _ => s.reloaded := by
  obtain ⟨xs, hx⟩ := exists_fileRecords_iff.mpr (keysRead_toFile s)
  have hd := denotes_of_fileRecords hx
  have hn := nodup_keyOf?_toFile s
  rw [map_keyOf?_eq hd] at hn
  have hp : xs.Perm (lastByKey s.records) := by
    rw [List.perm_ext_iff_of_nodup hn.of_map.of_map (nodup_lastByKey s.records).of_map]
    intro x
    rw [mem_iff_denotes hd, denotes_toFile_iff, mem_lastByKey]
  rw [ofFile_eq hx, sortByKey_eq_of_perm hn.of_map hp]
  rfl

theorem modes_toFile_congr (h : ∀ key, last? s.records key = last? t.records key) :
    s.toFile.modes = t.toFile.modes := by
  apply (populated_toFile s).ext (populated_toFile t)
  intro texts
  by_cases hk : ∃ key : Key, texts = key.texts
  · obtain ⟨key, rfl⟩ := hk
    rw [stored?_toFile, stored?_toFile, h]
  · have none : ∀ u : Schema, stored? u.toFile.modes texts = none := fun u =>
      Option.eq_none_iff_forall_ne_some.mpr fun e he => hk (exists_texts_of_stored? he)
    rw [none s, none t]

theorem toFile_reloaded (s : Schema) : s.reloaded.toFile = s.toFile := by
  have hm : s.reloaded.toFile.modes = s.toFile.modes :=
    modes_toFile_congr (last?_sortByKey s.records)
  change File.mk s.info s.addressing s.reloaded.toFile.modes = s.toFile
  rw [hm]
  rfl

theorem pairwise_lt_sortByKey (h : (xs.map Record.key).Nodup) :
    (sortByKey xs).Pairwise fun a b => a.key.rank < b.key.rank := pairwise_lt_sortBy h

theorem reloaded_eq_self_iff :
    s.reloaded = s ↔ s.records.Pairwise fun a b => a.key.rank < b.key.rank := by
  constructor
  · intro h
    have hr : sortByKey (lastByKey s.records) = s.records := congrArg records h
    exact hr ▸ pairwise_lt_sortByKey (nodup_lastByKey s.records)
  · intro h
    have hn : (s.records.map Record.key).Nodup :=
      List.pairwise_map.mpr (h.imp fun hlt he => Nat.ne_of_lt hlt (congrArg Key.rank he))
    have hs : sortByKey s.records = s.records :=
      List.mergeSort_of_pairwise (h.imp fun hlt => decide_eq_true (Nat.le_of_lt hlt))
    rw [reloaded, lastByKey_eq_self hn, hs]

theorem parse_render_eq_ofFile (h : format.read? (format.write s.toFile) = some s.toFile) :
    format.parse (format.render s) = ofFile s.toFile := by
  rw [FileFormat.parse, FileFormat.render, h]

theorem parse_render_of_valid (h : format.read? (format.write s.toFile) = some s.toFile)
    (ha : s.addressing.Valid) : format.parse (format.render s) = .ok s.reloaded := by
  rw [parse_render_eq_ofFile h, ofFile_toFile, Codec.responseId_eq_ok_iff.mpr ⟨ha, rfl⟩]
  rfl

theorem parse_render_of_not_valid (h : format.read? (format.write s.toFile) = some s.toFile)
    (ha : ¬s.addressing.Valid) : format.parse (format.render s) =
      .error (.addressing (.outOfRange s.addressing.queryId s.addressing.responseOffset)) := by
  have hr : s.addressing.responseId =
      .error (.outOfRange s.addressing.queryId s.addressing.responseOffset) := if_neg ha
  rw [parse_render_eq_ofFile h, ofFile_toFile, hr]
  rfl

/-- A schema whose file is read back as it was written is loaded with the last record of each key, in
the order of the keys, unless its addressing is refused. It is loaded as it was just if its keys
increase, and what was loaded is written and loaded as itself. -/
theorem parse_render_eq_reloaded (format : FileFormat) (s : Schema)
    (h : format.read? (format.write s.toFile) = some s.toFile) :
    (¬s.addressing.Valid → format.parse (format.render s) =
        .error (.addressing (.outOfRange s.addressing.queryId s.addressing.responseOffset))) ∧
      (s.addressing.Valid → format.parse (format.render s) =
        .ok { s with records := sortByKey (lastByKey s.records) }) ∧
      (format.parse (format.render s) = .ok s ↔
        s.addressing.Valid ∧ s.records.Pairwise fun a b =>
          a.key.mode < b.key.mode ∨ a.key.mode = b.key.mode ∧ a.key.pid < b.key.pid) ∧
      ∀ t, format.parse (format.render s) = .ok t →
        format.render t = format.render s ∧ format.parse (format.render t) = .ok t := by
  have hlt : (fun a b : Record => a.key.mode < b.key.mode ∨
      a.key.mode = b.key.mode ∧ a.key.pid < b.key.pid) = fun a b => a.key.rank < b.key.rank := by
    funext a b
    exact propext Key.rank_lt_iff.symm
  rw [hlt, ← reloaded_eq_self_iff]
  by_cases ha : s.addressing.Valid
  · have hp := parse_render_of_valid h ha
    refine ⟨fun hn => absurd ha hn, fun _ => hp, ?_, fun t ht => ?_⟩
    · rw [hp]
      exact ⟨fun he => ⟨ha, Except.ok.inj he⟩, fun he => congrArg Except.ok he.2⟩
    · have ht : t = s.reloaded := Except.ok.inj (ht.symm.trans hp)
      have hr : format.render t = format.render s := by
        rw [ht, FileFormat.render, toFile_reloaded, FileFormat.render]
      exact ⟨hr, by rw [hr, hp, ht]⟩
  · have hp := parse_render_of_not_valid h ha
    refine ⟨fun _ => hp, fun hv => absurd hv ha, ?_, fun t ht => ?_⟩
    · rw [hp]
      exact ⟨nofun, fun he => absurd he.1 ha⟩
    · rw [hp] at ht
      cases ht

theorem parse_render_eq_reloaded_duplicate :
    ∃ s : Schema, s.records = [⟨⟨1, 0x0C⟩, "Load", "", 1, .uint8, ""⟩,
        ⟨⟨1, 0x0D⟩, "Speed", "km/h", 1, .uint8, ""⟩,
        ⟨⟨1, 0x0C⟩, "Speed", "rpm", 2, .float, "A*64"⟩] ∧
      yaml.read? (yaml.write s.toFile) = some s.toFile ∧
      yaml.parse (yaml.render s) =
        .ok { s with records := [⟨⟨1, 0x0C⟩, "Speed", "rpm", 2, .float, "A*64"⟩,
          ⟨⟨1, 0x0D⟩, "Speed", "km/h", 1, .uint8, ""⟩] } ∧
      yaml.parse (yaml.render s) ≠ .ok s := by
  let engine : Record := ⟨⟨1, 0x0C⟩, "Speed", "rpm", 2, .float, "A*64"⟩
  let vehicle : Record := ⟨⟨1, 0x0D⟩, "Speed", "km/h", 1, .uint8, ""⟩
  let s : Schema := ⟨.blank, .standard, [⟨⟨1, 0x0C⟩, "Load", "", 1, .uint8, ""⟩, vehicle, engine]⟩
  have h : yaml.read? (yaml.write s.toFile) = some s.toFile := by
    change File.parse? s.toFile.render = some s.toFile
    rw [File.render, Yaml.render, File.parse?_ofList]
    decide +kernel
  have ha : s.addressing.Valid := (Codec.responseId_eq_ok_iff.mp rfl).1
  have hr : sortByKey (lastByKey s.records) = [engine, vehicle] :=
    (sortByKey_eq_of_perm (by decide) (.swap engine vehicle [])).trans
      (List.mergeSort_of_pairwise (by decide))
  refine ⟨s, rfl, h, ?_, fun hs => ?_⟩
  · exact hr ▸ (parse_render_eq_reloaded yaml s h).2.1 ha
  · exact absurd ((parse_render_eq_reloaded yaml s h).2.2.1.mp hs).2 (by decide)

end VehiclePid.Schema
