import VehiclePid.Proofs.Codec.Basic
import VehiclePid.Proofs.Value.Bytes

namespace VehiclePid.Codec

variable {c : Codec} {f : Frame} {x : Decoded} {e : Error} {out : List UInt8}

theorem run_store (c : Codec) (f : Frame) (out : List UInt8) : (c.store f).run.run out =
    match c.decode f with
    | .error e => (.error e, out)
    | .ok x =>
      if out.length < x.value.width then
        (.error (.outputTooSmall x.value.width out.length), out)
      else (.ok x.value.width, x.value.bytes ++ out.drop x.value.width) := by
  rw [store]
  cases c.decode f with
  | error e => rfl
  | ok x =>
    change (if out.length < x.value.width then _ else _ : ExceptT Error (StateM _) Nat).run.run out
      = _
    dsimp only
    split <;> rfl

theorem store_of_error (h : c.decode f = .error e) (out : List UInt8) :
    (c.store f).run.run out = (.error e, out) := by
  rw [run_store, h]

theorem store_of_short (h : c.decode f = .ok x) (hl : out.length < x.value.width) :
    (c.store f).run.run out = (.error (.outputTooSmall x.value.width out.length), out) := by
  rw [run_store, h]
  exact if_pos hl

theorem store_of_room (h : c.decode f = .ok x) (hl : x.value.width ≤ out.length) :
    (c.store f).run.run out = (.ok x.value.width, x.value.bytes ++ out.drop x.value.width) := by
  rw [run_store, h]
  exact if_neg (Nat.not_lt.mpr hl)
theorem type_of_decode (h : c.decode f = .ok x) : x.value.type = x.descriptor.type := by
  obtain ⟨-, hi⟩ := decode_eq_ok_iff.mp h
  obtain ⟨v, -, hv⟩ := Except.map_eq_ok_iff.mp hi
  rw [← hv, ValueType.type_cast]

theorem length_stored {v : Value} (hl : v.width ≤ out.length) :
    (v.bytes ++ out.drop v.width).length = out.length := by
  rw [List.length_append, v.length_bytes, List.length_drop, Nat.add_sub_cancel' hl]

theorem getElem?_stored (v : Value) {i : Nat} (hi : v.width ≤ i) :
    (v.bytes ++ out.drop v.width)[i]? = out[i]? := by
  have hlen := v.length_bytes
  rw [List.getElem?_append_right (Nat.le_trans (Nat.le_of_eq hlen) hi), List.getElem?_drop, hlen,
    Nat.add_sub_cancel' hi]

/-- A frame that does not decode and a buffer that is too short leave the buffer as it is. Otherwise
the value is in its first bytes, as many as its type is wide, and the others are as they were. -/
theorem store_atomic (c : Codec) (f : Frame) (out : List UInt8) :
    (∀ e, c.decode f = .error e → (c.store f).run.run out = (.error e, out)) ∧
      ∀ x, c.decode f = .ok x →
        (out.length < x.descriptor.type.size → (c.store f).run.run out =
          (.error (.outputTooSmall x.descriptor.type.size out.length), out)) ∧
        (x.descriptor.type.size ≤ out.length →
          x.value.bytes.length = x.descriptor.type.size ∧
            ∃ written, (c.store f).run.run out = (.ok x.descriptor.type.size, written) ∧
              written.length = out.length ∧
              (∀ i, x.descriptor.type.size ≤ i → written[i]? = out[i]?) ∧
              Value.ofBytes? x.descriptor.type written = some x.value) := by
  refine ⟨fun e h => store_of_error h out, fun x h => ?_⟩
  have hw : x.value.width = x.descriptor.type.size := congrArg ValueType.size (type_of_decode h)
  rw [← hw, ← type_of_decode h]
  refine ⟨fun hl => store_of_short h hl, fun hl => ⟨x.value.length_bytes, _, store_of_room h hl, ?_⟩⟩
  exact ⟨length_stored hl, fun i hi => getElem?_stored x.value hi, x.value.ofBytes?_bytes _⟩

theorem store_atomic_engine_speed :
    ∃ r d, Registry.build [⟨⟨1, 0x0C⟩, "Engine Speed", "rpm", 2, .uint16, "A*64"⟩] = .ok r ∧
      ((standard r).store ⟨0x7E7, 8, #v[2, 0x41, 0x0C, 77, 130, 1, 2, 3]⟩).run.run [9, 8, 7] =
        (.error (.eval (.insufficientBytes 1 0)), [9, 8, 7]) ∧
      (standard r).decode ⟨0x7E7, 8, #v[3, 0x41, 0x0C, 77, 130, 1, 2, 3]⟩ =
        .ok ⟨⟨1, 0x0C⟩, d, [77], .uint16 4928⟩ ∧
      ((standard r).store ⟨0x7E7, 8, #v[3, 0x41, 0x0C, 77, 130, 1, 2, 3]⟩).run.run [9] =
        (.error (.outputTooSmall 2 1), [9]) ∧
      ∃ written,
        ((standard r).store ⟨0x7E7, 8, #v[3, 0x41, 0x0C, 77, 130, 1, 2, 3]⟩).run.run [9, 8, 7] =
          (.ok 2, written) ∧
        written.length = 3 ∧ written[2]? = some 7 ∧
        Value.ofBytes? .uint16 written = some (.uint16 4928) := by
  let d : Descriptor := ⟨⟨1, 0x0C⟩, "Engine Speed", ⟨0⟩, 2, .uint16, "A*64",
    ⟨[.operand 0, .literal (.ofNat 64), .operator .mul], 1⟩⟩
  let r : Registry := ⟨[d], ["rpm"]⟩
  have hr : Registry.build
    [⟨⟨1, 0x0C⟩, "Engine Speed", "rpm", 2, .uint16, "A*64"⟩] = .ok r := by rfl
  have hs : (standard r).decode ⟨0x7E7, 8, #v[2, 0x41, 0x0C, 77, 130, 1, 2, 3]⟩ =
    .error (.eval (.insufficientBytes 1 0)) := by rfl
  have hf : (standard r).decode ⟨0x7E7, 8, #v[3, 0x41, 0x0C, 77, 130, 1, 2, 3]⟩ =
    .ok ⟨⟨1, 0x0C⟩, d, [77], .uint16 4928⟩ := by rfl
  obtain ⟨hshort, -⟩ := (store_atomic (standard r) _ [9]).2 _ hf
  obtain ⟨-, hroom⟩ := (store_atomic (standard r) _ [9, 8, 7]).2 _ hf
  obtain ⟨-, written, hrun, hlen, hrest, hv⟩ := hroom (by decide)
  exact ⟨r, d, hr, (store_atomic (standard r) _ [9, 8, 7]).1 _ hs, hf, hshort (by decide), written,
    hrun, hlen, hrest 2 (by decide), hv⟩

end VehiclePid.Codec
