import MooseHerd.Http.Url

/-! What an address says about who asks, in the form in which a request shows it: the name and the
password in base 64. -/

namespace MooseHerd.Http

namespace Base64

def digit (n : Nat) : Char :=
  if n < 26 then Char.ofNat (n + 'A'.toNat)
  else if n < 52 then Char.ofNat (n - 26 + 'a'.toNat)
  else if n < 62 then Char.ofNat (n - 52 + '0'.toNat)
  else if n = 62 then '+'
  else '/'

/-- Bytes in groups of four characters; the last group is filled up. -/
def encode : List UInt8 → List Char
  | [] => []
  | [a] =>
    let n := 16 * a.toNat
    [digit (n / 64), digit (n % 64), '=', '=']
  | [a, b] =>
    let n := 1024 * a.toNat + 4 * b.toNat
    [digit (n / 4096), digit (n / 64 % 64), digit (n % 64), '=']
  | a :: b :: c :: rest =>
    let n := 65536 * a.toNat + 256 * b.toNat + c.toNat
    digit (n / 262144) :: digit (n / 4096 % 64) :: digit (n / 64 % 64) :: digit (n % 64) ::
      encode rest

end Base64

/-- The value that shows a server who asks. -/
def User.authorization (u : User) : String :=
  let text := u.name ++ ":" ++ u.password.getD ""
  "Basic " ++ String.ofList (Base64.encode (Text.Utf8.encode text))

example : User.authorization { name := "Aladdin", password := some "open sesame" } =
    "Basic QWxhZGRpbjpvcGVuIHNlc2FtZQ==" := by decide +kernel

end MooseHerd.Http
