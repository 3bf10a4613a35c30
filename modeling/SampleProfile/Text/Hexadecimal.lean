/-!
# Hexadecimal text
-/

namespace SampleProfile.Text

/-- Bytes in hexadecimal digits, two for each. -/
def hexadecimal (bytes : List UInt8) : String :=
  String.ofList <| bytes.flatMap fun byte =>
    [Nat.digitChar (byte.toNat / 16), Nat.digitChar (byte.toNat % 16)]

end SampleProfile.Text
