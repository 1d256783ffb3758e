import VehiclePid.Schema.Basic

namespace VehiclePid.Schema

/-- The schema for vehicles of no known make: common parameters of the service of current data. -/
def genericText : String := "# Generic OBD-II mode 01 (current data) PIDs
meta:
  name: Generic OBD-II
  version: \"1.0\"
  description: SAE J1979 service 01 parameters

codec:
  query_id: 0x7DF
  response_offset: 8
  padding: 0xCC

modes:
  0x01:
    0x04:
      name: Calculated Engine Load
      bytes: 1
      unit: \"%\"
      type: float
      expr: A*100/255
    0x05:
      name: Engine Coolant Temperature
      bytes: 1
      unit: °C
      type: int16
      expr: A-40
    0x0A:
      name: Fuel Pressure
      bytes: 1
      unit: kPa
      type: uint16
      expr: A*3
    0x0B:
      name: Intake Manifold Absolute Pressure
      bytes: 1
      unit: kPa
      type: uint8
    0x0C:
      name: Engine RPM
      bytes: 2
      unit: rpm
      type: float
      expr: (A*256+B)/4
    0x0D:
      name: Vehicle Speed
      bytes: 1
      unit: km/h
      type: uint8
    0x0E:
      name: Timing Advance
      bytes: 1
      unit: °
      type: float
      expr: A/2-64
    0x0F:
      name: Intake Air Temperature
      bytes: 1
      unit: °C
      type: int16
      expr: A-40
    0x10:
      name: MAF Air Flow Rate
      bytes: 2
      unit: g/s
      type: float
      expr: (256*A+B)/100
    0x11:
      name: Throttle Position
      bytes: 1
      unit: \"%\"
      type: float
      expr: A*100/255
    0x1F:
      name: Run Time Since Engine Start
      bytes: 2
      unit: s
      type: uint16
      expr: 256*A+B
    0x2F:
      name: Fuel Tank Level Input
      bytes: 1
      unit: \"%\"
      type: float
      expr: 100/255*A
    0x46:
      name: Ambient Air Temperature
      bytes: 1
      unit: °C
      type: int16
      expr: A-40
"

def FileFormat.generic (format : FileFormat) : Except LoadError Schema := format.parse genericText

end VehiclePid.Schema
