import QueryTemplate.Decimal.Shortest

/-!
# Numbers as text

The text of a binary floating-point number, with the digits of its shortest
decimal. A `NumberFormat` says from where to where numbers are written out in full;
outside of that range they are written with an exponent.

* `Decimal.positional`, `Decimal.scientific`: the two ways to write a decimal;
* `NumberFormat.text`: the text of a floating-point number.
-/

namespace QueryTemplate

namespace Decimal

/-- The decimal written out in full. -/
def positional (d : Decimal) (keepPoint : Bool) : String :=
  let ds := Nat.toDigits 10 d.digits
  let zeros := fun n => List.replicate n '0'
  if 0 ≤ d.exponent then
    .ofList (ds ++ zeros d.exponent.toNat ++ if keepPoint then ['.', '0'] else [])
  else
    let places := (-d.exponent).toNat
    if places < ds.length then
      .ofList (ds.take (ds.length - places) ++ '.' :: ds.drop (ds.length - places))
    else .ofList ('0' :: '.' :: zeros (places - ds.length) ++ ds)

/-- The power of ten of the first digit. -/
def order (d : Decimal) : Int :=
  d.exponent + width d.digits - 1

/-- The decimal with one digit before the point and an exponent. -/
def scientific (d : Decimal) : String :=
  let ds := Nat.toDigits 10 d.digits
  let fraction := if ds.length ≤ 1 then [] else '.' :: ds.drop 1
  .ofList (ds.take 1 ++ fraction ++ 'e' :: (toString d.order).toList)

end Decimal

/-- How floating-point numbers are written. -/
structure NumberFormat where
  /-- The numbers written out in full are those whose first digit stands for a
      power of ten within these bounds; without bounds, all are. -/
  bounds : Option (Int × Int)
  /-- Whether a whole number keeps a decimal point. -/
  keepPoint : Bool

namespace NumberFormat

/-- The text of the positive decimal `d`. -/
def decimal (f : NumberFormat) (d : Decimal) : String :=
  match f.bounds with
  | none => d.positional f.keepPoint
  | some (least, most) =>
    if least ≤ d.order && d.order ≤ most then d.positional f.keepPoint else d.scientific

/-- The bit before the fraction of a floating-point number. -/
def leadingBit : Nat := 0x10000000000000

/-- The text of a floating-point number. -/
def text (f : NumberFormat) (x : Float) : String :=
  let bits := x.toBits.toNat
  let biased : Nat := bits / leadingBit % 2048
  let fraction := bits % leadingBit
  let sign := if bits < 0x8000000000000000 then "" else "-"
  if biased = 2047 then
    if fraction = 0 then sign ++ "inf" else "NaN"
  else if biased = 0 && fraction = 0 then
    sign ++ if f.keepPoint then "0.0" else "0"
  else if biased = 0 then
    sign ++ f.decimal (Decimal.shortest fraction (-1074) false)
  else
    sign ++ f.decimal
      (Decimal.shortest (leadingBit + fraction) (biased - 1075) (fraction = 0 && 1 < biased))

end NumberFormat

end QueryTemplate
