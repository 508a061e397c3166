import Scribe.Text.Base64
import Scribe.Text.Percent

/-!
# Hosts

A host is named by a word or by a number. Both are read in one form: encoded bytes are resolved,
letters are small, and characters that stand for others are replaced by them, among them the digits
of other widths and the full stops of other scripts. A host whose last part is a number is a number
as a whole, of four bytes, which can be written in up to four parts and in three bases; its form is
four decimal numbers with dots between them.
-/

namespace Scribe.Remote.Host

open Text

/-! ### Characters -/

/-- Whether a character is a control character. -/
def isControl (c : Char) : Bool := c.toNat < 0x20 || c.toNat == 0x7F

/-- Whether a character may not stand in the name of a host. -/
def isForbidden (c : Char) : Bool :=
  isControl c ||
    [' ', '#', '%', '/', ':', '<', '>', '?', '@', '[', '\\', ']', '^', '|'].contains c

/-- The characters beyond ASCII that stand for nothing, or for those that numbers are written with:
digits, the letters from `a` to `f`, `x`, and the dot. The first of a range stands for the text; if
this is one character, the next stands for the next. -/
def standIns : List (Nat × Nat × String) :=
  [(0xAA, 0xAA, "a"), (0xAD, 0xAD, ""), (0xB2, 0xB3, "2"), (0xB9, 0xB9, "1"), (0x2E3, 0x2E3, "x"),
   (0x34F, 0x34F, ""), (0x180B, 0x180D, ""), (0x180F, 0x180F, ""), (0x1D2C, 0x1D2C, "a"),
   (0x1D2E, 0x1D2E, "b"), (0x1D30, 0x1D31, "d"), (0x1D43, 0x1D43, "a"), (0x1D47, 0x1D47, "b"),
   (0x1D48, 0x1D49, "d"), (0x1D9C, 0x1D9C, "c"), (0x1DA0, 0x1DA0, "f"), (0x200B, 0x200B, ""),
   (0x2060, 0x2060, ""), (0x2064, 0x2064, ""), (0x2070, 0x2070, "0"), (0x2074, 0x2079, "4"),
   (0x2080, 0x2089, "0"), (0x2090, 0x2090, "a"), (0x2091, 0x2091, "e"), (0x2093, 0x2093, "x"),
   (0x2102, 0x2102, "c"), (0x212C, 0x212D, "b"), (0x212F, 0x212F, "e"), (0x2130, 0x2131, "e"),
   (0x213B, 0x213B, "fax"), (0x2145, 0x2145, "d"), (0x2146, 0x2147, "d"), (0x2169, 0x2169, "x"),
   (0x216D, 0x216E, "c"), (0x2179, 0x2179, "x"), (0x217D, 0x217E, "c"), (0x2460, 0x2468, "1"),
   (0x2469, 0x2469, "10"), (0x246A, 0x246A, "11"), (0x246B, 0x246B, "12"), (0x246C, 0x246C, "13"),
   (0x246D, 0x246D, "14"), (0x246E, 0x246E, "15"), (0x246F, 0x246F, "16"), (0x2470, 0x2470, "17"),
   (0x2471, 0x2471, "18"), (0x2472, 0x2472, "19"), (0x2473, 0x2473, "20"), (0x24B6, 0x24BB, "a"),
   (0x24CD, 0x24CD, "x"), (0x24D0, 0x24D5, "a"), (0x24E7, 0x24E7, "x"), (0x24EA, 0x24EA, "0"),
   (0x3002, 0x3002, "."), (0x3251, 0x3251, "21"), (0x3252, 0x3252, "22"), (0x3253, 0x3253, "23"),
   (0x3254, 0x3254, "24"), (0x3255, 0x3255, "25"), (0x3256, 0x3256, "26"), (0x3257, 0x3257, "27"),
   (0x3258, 0x3258, "28"), (0x3259, 0x3259, "29"), (0x325A, 0x325A, "30"), (0x325B, 0x325B, "31"),
   (0x325C, 0x325C, "32"), (0x325D, 0x325D, "33"), (0x325E, 0x325E, "34"), (0x325F, 0x325F, "35"),
   (0x32B1, 0x32B1, "36"), (0x32B2, 0x32B2, "37"), (0x32B3, 0x32B3, "38"), (0x32B4, 0x32B4, "39"),
   (0x32B5, 0x32B5, "40"), (0x32B6, 0x32B6, "41"), (0x32B7, 0x32B7, "42"), (0x32B8, 0x32B8, "43"),
   (0x32B9, 0x32B9, "44"), (0x32BA, 0x32BA, "45"), (0x32BB, 0x32BB, "46"), (0x32BC, 0x32BC, "47"),
   (0x32BD, 0x32BD, "48"), (0x32BE, 0x32BE, "49"), (0x32BF, 0x32BF, "50"), (0x3372, 0x3372, "da"),
   (0x33C4, 0x33C4, "cc"), (0x33C5, 0x33C5, "cd"), (0x33C8, 0x33C8, "db"), (0xA7F2, 0xA7F2, "c"),
   (0xA7F3, 0xA7F3, "f"), (0xFB00, 0xFB00, "ff"), (0xFE00, 0xFE0F, ""), (0xFEFF, 0xFEFF, ""),
   (0xFF0E, 0xFF0E, "."), (0xFF10, 0xFF19, "0"), (0xFF21, 0xFF26, "a"), (0xFF38, 0xFF38, "x"),
   (0xFF41, 0xFF46, "a"), (0xFF58, 0xFF58, "x"), (0xFF61, 0xFF61, "."), (0x1BCA0, 0x1BCA3, ""),
   (0x1D400, 0x1D405, "a"), (0x1D417, 0x1D417, "x"), (0x1D41A, 0x1D41F, "a"),
   (0x1D431, 0x1D431, "x"), (0x1D434, 0x1D439, "a"), (0x1D44B, 0x1D44B, "x"),
   (0x1D44E, 0x1D453, "a"), (0x1D465, 0x1D465, "x"), (0x1D468, 0x1D46D, "a"),
   (0x1D47F, 0x1D47F, "x"), (0x1D482, 0x1D487, "a"), (0x1D499, 0x1D499, "x"),
   (0x1D49C, 0x1D49C, "a"), (0x1D49E, 0x1D49F, "c"), (0x1D4B3, 0x1D4B3, "x"),
   (0x1D4B6, 0x1D4B9, "a"), (0x1D4BB, 0x1D4BB, "f"), (0x1D4CD, 0x1D4CD, "x"),
   (0x1D4D0, 0x1D4D5, "a"), (0x1D4E7, 0x1D4E7, "x"), (0x1D4EA, 0x1D4EF, "a"),
   (0x1D501, 0x1D501, "x"), (0x1D504, 0x1D505, "a"), (0x1D507, 0x1D509, "d"),
   (0x1D51B, 0x1D51B, "x"), (0x1D51E, 0x1D523, "a"), (0x1D535, 0x1D535, "x"),
   (0x1D538, 0x1D539, "a"), (0x1D53B, 0x1D53D, "d"), (0x1D54F, 0x1D54F, "x"),
   (0x1D552, 0x1D557, "a"), (0x1D569, 0x1D569, "x"), (0x1D56C, 0x1D571, "a"),
   (0x1D583, 0x1D583, "x"), (0x1D586, 0x1D58B, "a"), (0x1D59D, 0x1D59D, "x"),
   (0x1D5A0, 0x1D5A5, "a"), (0x1D5B7, 0x1D5B7, "x"), (0x1D5BA, 0x1D5BF, "a"),
   (0x1D5D1, 0x1D5D1, "x"), (0x1D5D4, 0x1D5D9, "a"), (0x1D5EB, 0x1D5EB, "x"),
   (0x1D5EE, 0x1D5F3, "a"), (0x1D605, 0x1D605, "x"), (0x1D608, 0x1D60D, "a"),
   (0x1D61F, 0x1D61F, "x"), (0x1D622, 0x1D627, "a"), (0x1D639, 0x1D639, "x"),
   (0x1D63C, 0x1D641, "a"), (0x1D653, 0x1D653, "x"), (0x1D656, 0x1D65B, "a"),
   (0x1D66D, 0x1D66D, "x"), (0x1D670, 0x1D675, "a"), (0x1D687, 0x1D687, "x"),
   (0x1D68A, 0x1D68F, "a"), (0x1D6A1, 0x1D6A1, "x"), (0x1D7CE, 0x1D7D7, "0"),
   (0x1D7D8, 0x1D7E1, "0"), (0x1D7E2, 0x1D7EB, "0"), (0x1D7EC, 0x1D7F5, "0"),
   (0x1D7F6, 0x1D7FF, "0"), (0x1F12B, 0x1F12B, "c"), (0x1F12D, 0x1F12D, "cd"),
   (0x1F130, 0x1F135, "a"), (0x1F147, 0x1F147, "x"), (0x1FBF0, 0x1FBF9, "0"),
   (0xE0100, 0xE01EF, "")]

/-- What a character stands for in the name of a host. -/
def folded (c : Char) : List Char :=
  if c.toNat < 0x80 then [c.toLower]
  else
    match standIns.find? fun r => r.1 ≤ c.toNat && c.toNat ≤ r.2.1 with
    | none => [c]
    | some (first, _, text) =>
      match text.toList with
      | [d] => [Char.ofNat (d.toNat + (c.toNat - first))]
      | ds => ds

/-! ### Numbers -/

/-- The value of a digit. -/
def digit? (c : Char) : Option Nat :=
  if c.isDigit then some (c.toNat - 48)
  else if 'a' ≤ c && c ≤ 'f' then some (c.toNat - 87)
  else none

/-- A number in a base; no digits are zero. -/
def inBase? (base : Nat) (cs : List Char) : Option Nat :=
  cs.foldlM (fun n c => ((digit? c).filter (· < base)).map (base * n + ·)) 0

/-- A part of a number: hexadecimal behind `0x`, octal behind `0`, or else decimal. -/
def part? : List Char → Option Nat
  | [] => none
  | '0' :: 'x' :: cs => inBase? 16 cs
  | '0' :: c :: cs => inBase? 8 (c :: cs)
  | cs => inBase? 10 cs

/-- The parts of a name between its dots; a dot at its end does not count. -/
def parts (cs : List Char) : List (List Char) :=
  let all := cs.splitOn '.'
  if all.getLast? == some [] then all.dropLast else all

/-- Whether the last part of a name is a number, or looks like one. -/
def endsInNumber (cs : List Char) : Bool :=
  (parts cs).getLast?.any fun last =>
    (!last.isEmpty && last.all Char.isDigit) || (part? last).isSome

/-- The number that parts give. All but the last are bytes, the highest first; the last fills up the
four bytes. -/
def number? (ps : List (List Char)) : Option Nat := do
  let values ← ps.mapM part?
  let last ← values.getLast?
  let bytes := values.dropLast
  let room := Nat.pow 256 (4 - bytes.length)
  if 3 < bytes.length || bytes.any (256 ≤ ·) || room ≤ last then none
  else return bytes.foldl (256 * · + ·) 0 * room + last

/-- Four bytes as decimal numbers with dots between them. -/
def dotted (n : Nat) : String :=
  ".".intercalate ((bytesOfNat 4 n).map fun b => toString b.toNat)

/-! ### Hosts -/

/-- The form of a host, if it is one. -/
def normal? (cs : List Char) : Option String := do
  let text ← percentDecode? (.ofList cs)
  let name := text.toList.flatMap folded
  if name.isEmpty || name.any isForbidden then none
  else if endsInNumber name then return dotted (← number? (parts name))
  else return .ofList name

end Scribe.Remote.Host
