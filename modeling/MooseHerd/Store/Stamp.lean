import MooseHerd.Random.ChaCha
import MooseHerd.Store.Memory
import MooseHerd.Toml.Scalar

/-! Stamps as servers make them: a random identifier and a time of day. -/

namespace MooseHerd.Stamp

open MooseHerd.Random

/-- A number in so many hexadecimal digits. -/
def hexText (width n : Nat) : List Char :=
  let ds := Nat.toDigits 16 n
  List.replicate (width - ds.length) '0' ++ ds

/-- A random identifier from two words. Six of their bits tell its version and variant. -/
def uidOf (high low : UInt64) : String :=
  let high := (high &&& 0xffffffffffff0fff) ||| 0x4000
  let low := (low &&& 0x3fffffffffffffff) ||| 0x8000000000000000
  let ds := hexText 16 high.toNat ++ hexText 16 low.toNat
  String.ofList (Text.joinWith ['-'] [ds.take 8, (ds.drop 8).take 4, (ds.drop 12).take 4,
    (ds.drop 16).take 4, ds.drop 20])

/-- The year, month and day of a day, counted from the first of March of the year 0. -/
def dateOf (day : Nat) : Nat × Nat × Nat :=
  let era := day / 146097
  let dayOfEra := day % 146097
  let yearOfEra :=
    (dayOfEra - dayOfEra / 1460 + dayOfEra / 36524 - dayOfEra / 146096) / 365
  let dayOfYear := dayOfEra - (365 * yearOfEra + yearOfEra / 4 - yearOfEra / 100)
  let month := (5 * dayOfYear + 2) / 153
  let dayOfMonth := dayOfYear - (153 * month + 2) / 5 + 1
  let year := yearOfEra + 400 * era
  if month < 10 then (year, month + 3, dayOfMonth) else (year + 1, month - 9, dayOfMonth)

/-- The days from the first of March of the year 0 to the first of January 1970. -/
def epochDay : Nat := 719468

/-- A time in seconds since the beginning of 1970, as a date and a time of day. -/
def timeOf (seconds : Nat) : String :=
  let (year, month, day) := dateOf (epochDay + seconds / 86400)
  let second := seconds % 86400
  String.ofList (Toml.padded 4 year ++ '-' :: Toml.padded 2 month ++ '-' :: Toml.padded 2 day ++
    'T' :: Toml.padded 2 (second / 3600) ++ ':' :: Toml.padded 2 (second / 60 % 60) ++
    ':' :: Toml.padded 2 (second % 60) ++ ['Z'])

/-- Stamps of one time, with identifiers from the words of different seeds. -/
def series (seed : UInt64) (seconds : Nat) (number : Nat) : Stamp :=
  let words := ChaChaStream.ofSeed (seed + number.toUInt64)
  let (high, words) := words.next64
  let (low, _) := words.next64
  { uid := uidOf high low, time := timeOf seconds }

end MooseHerd.Stamp
