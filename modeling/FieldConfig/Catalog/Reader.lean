import FieldConfig.Catalog
import FieldConfig.Decode.Matcher
import FieldConfig.Protocol.Reader

set_option autoImplicit false

namespace FieldConfig

open Decode

def ModbusHints.form : Form ModbusHints :=
  ⟨{}, [
    .optional ["scaling"] (.optional fun tree => (Matcher.whole tree).bind exponent?)
      ({ · with scaling := · })]⟩

def Dnp3Hints.form : Form Dnp3Hints :=
  ⟨{}, [
    .optional ["sgvar", "svar"] (.optional Matcher.text) ({ · with sgvar := · }),
    .optional ["egvar", "evar"] (.optional Matcher.text) ({ · with egvar := · }),
    .optional ["class"] (.optional Matcher.text) ({ · with eventClass := · }),
    .optional ["sbo"] (.optional Matcher.flag) ({ · with sbo := · })]⟩

def ValueRange.form : Form ValueRange :=
  ⟨⟨.ofInt 0, .ofInt 0⟩, [
    .needed ["min"] Matcher.real ({ · with low := · }),
    .needed ["max"] Matcher.real ({ · with high := · })]⟩

def FieldSpec.form : Form FieldSpec :=
  ⟨⟨.analogRead, {}, {}, none⟩, [
    .needed ["type"] (Matcher.variant PointClass.names) ({ · with pointClass := · }),
    .optional ["modbus"] ModbusHints.form.fits ({ · with modbus := · }),
    .optional ["dnp3"] Dnp3Hints.form.fits ({ · with dnp3 := · }),
    .optional ["range"] (.optional ValueRange.form.fits) ({ · with range := · })]⟩

def FieldSpec.fits : Matcher FieldSpec := fun tree =>
  match Matcher.variant PointClass.names tree with
  | some pointClass => some ⟨pointClass, {}, {}, none⟩
  | none => FieldSpec.form.ofObject tree

def FieldSpec.read : Reader FieldSpec := fun source => do
  let spec ← Matcher.read "RawFieldSpec" FieldSpec.fits source
  match spec.range with
  | some range =>
    if range.high.below range.low then throw (.invertedRange range.low range.high)
    else return spec
  | none => return spec

def Catalog.readAdditions : Reader (Table (Table FieldTable)) :=
  Reader.table "a map"
    (Reader.table "a map with string keys"
      (Reader.table "a map with string keys" FieldSpec.read))

end FieldConfig
