import LoginGate.Text.Split
import LoginGate.Url.Punycode

/-!
# Domain names

The ASCII form of a domain name: in small letters, and with every label that is
not ASCII written in Punycode after `xn--`. Names are compared in one spelling
only, so capital and full-width letters and full stops of other scripts are
mapped first, and characters that never show are left out. A label that comes
with `xn--` has to be the form of a label that needs one.
-/

namespace LoginGate.Url

/-- Capital letters: the first and the last of a range, how far they are apart,
    and how far their small letters come after them. -/
structure CapitalRange where
  /-- The first capital letter. -/
  first : Nat
  /-- The last capital letter. -/
  last : Nat
  /-- The distance of neighbours. -/
  step : Nat
  /-- The distance of the small letters. -/
  distance : Nat

/-- The capital letters of the Latin, Greek, Cyrillic and Armenian scripts. -/
def capitalRanges : List CapitalRange :=
  [⟨0x41, 0x5a, 1, 32⟩, ⟨0xc0, 0xd6, 1, 32⟩, ⟨0xd8, 0xde, 1, 32⟩, ⟨0x100, 0x12e, 2, 1⟩,
    ⟨0x132, 0x136, 2, 1⟩, ⟨0x139, 0x147, 2, 1⟩, ⟨0x14a, 0x176, 2, 1⟩, ⟨0x179, 0x17d, 2, 1⟩,
    ⟨0x386, 0x386, 1, 38⟩, ⟨0x388, 0x38a, 1, 37⟩, ⟨0x38c, 0x38c, 1, 64⟩, ⟨0x38e, 0x38f, 1, 63⟩,
    ⟨0x391, 0x3a1, 1, 32⟩, ⟨0x3a3, 0x3ab, 1, 32⟩, ⟨0x400, 0x40f, 1, 80⟩, ⟨0x410, 0x42f, 1, 32⟩,
    ⟨0x460, 0x480, 2, 1⟩, ⟨0x48a, 0x4be, 2, 1⟩, ⟨0x4d0, 0x52e, 2, 1⟩, ⟨0x531, 0x556, 1, 48⟩,
    ⟨0x1e00, 0x1e94, 2, 1⟩, ⟨0x1ea0, 0x1efe, 2, 1⟩]

/-- Whether a range holds a letter. -/
def CapitalRange.holds (r : CapitalRange) (n : Nat) : Bool :=
  r.first ≤ n && n ≤ r.last && (n - r.first) % r.step == 0

/-- The small letter of a letter. -/
def smallLetter (c : Char) : Char :=
  match capitalRanges.find? fun r => r.holds c.toNat with
  | some r => Char.ofNat (c.toNat + r.distance)
  | none => c

/-- Whether a character does not count in a name. -/
def isIgnored (c : Char) : Bool :=
  c == '\u00ad' || c == '\u034f' || c == '\u200b' || c == '\u2060' || c == '\u2064' ||
    ('\u180b' ≤ c && c ≤ '\u180f') || ('\ufe00' ≤ c && c ≤ '\ufe0f') || c == '\ufeff'

/-- The character as it stands in names, if it counts. -/
def nameChar? (c : Char) : Option Char :=
  if isIgnored c then none
  else if c = '\u3002' ∨ c = '\uff61' then some '.'
  else if '\uff01' ≤ c ∧ c ≤ '\uff5e' then some (smallLetter (Char.ofNat (c.toNat - 0xfee0)))
  else if c = '\u0178' then some 'ÿ'
  else some (smallLetter c)

/-- Whether a character may stand in a name. Of ASCII all but blanks, controls
    and what delimits the parts of an address may; beyond it, all but blanks,
    controls, formats and characters without a public meaning. -/
def isNameChar (c : Char) : Bool :=
  let n := c.toNat
  if n < 128 then 32 < n && n < 127 && !("%#/:<>?@[\\]^|".toList.contains c)
  else
    0xa0 < n && n ≠ 0x1680 && !(0x2000 ≤ n && n ≤ 0x200f) && !(0x2028 ≤ n && n ≤ 0x202f) &&
      !(0x205f ≤ n && n ≤ 0x206f) && !(0x2ff0 ≤ n && n ≤ 0x2fff) && !(0xe000 ≤ n && n ≤ 0xf8ff) &&
      !(0xfdd0 ≤ n && n ≤ 0xfdef) && !(0xfff0 ≤ n && n ≤ 0xffff) && n % 0x10000 < 0xfffe &&
      n < 0xe0000

/-- The beginning of a label in Punycode. -/
def punycodeMark : List Char := "xn--".toList

/-- Whether a label is the Punycode of a label that needs it. -/
def isPunycodeLabel (code : List Char) : Bool :=
  match Punycode.decode? code with
  | none => false
  | some label =>
    label.any (128 ≤ ·.toNat) && label.all (fun c => isNameChar c && nameChar? c == some c) &&
      Punycode.encode label == code

/-- The ASCII form of a label whose characters are mapped, if it has one. -/
def asciiLabel? (label : List Char) : Option (List Char) :=
  if label.all isNameChar then
    match Text.after? punycodeMark label with
    | some code => if isPunycodeLabel code then some label else none
    | none =>
      if label.all (·.toNat < 128) then some label else some (punycodeMark ++ Punycode.encode label)
  else none

/-- The ASCII form of a domain name, if it has one. -/
def asciiDomain? (name : List Char) : Option (List Char) :=
  ((Text.pieces '.' (name.filterMap nameChar?)).mapM asciiLabel?).map (Text.join '.')

end LoginGate.Url
