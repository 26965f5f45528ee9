import EntityGen.Number.Double

/-! Numbers with a fixed count of decimal places. -/

namespace EntityGen.Number

/-- `n / 10 ^ places` with all its places written. -/
def withPoint (places n : Nat) : String :=
  let whole := toString (n / Nat.pow 10 places)
  let rest := toString (n % Nat.pow 10 places)
  if places = 0 then whole
  else whole ++ "." ++ String.ofList (List.replicate (places - rest.length) '0') ++ rest

/-- The text of a double with `places` decimal places; the exact value decides, and a half goes to the
even digit. -/
def Double.fixed (places : Nat) : Double → String
  | .nan => "nan"
  | .infinite s => if s then "-inf" else "inf"
  | .finite s m e =>
    let (num, den) := ratio m e
    (if s then "-" else "") ++ withPoint places (roundDiv (num * Nat.pow 10 places) den)

end EntityGen.Number
