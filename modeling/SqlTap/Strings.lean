/-
This file models the functions of Go's `strings`, `unicode`, `unicode/utf8` and `strconv`
packages that the connection's capture hooks call, on Go strings as byte sequences.

`detectTx` reads a query through `strings.ToUpper(strings.TrimSpace(q))` and tests three ASCII
prefixes. Both functions read the text as UTF-8 the way a Go `for range` loop does: each valid
sequence is one rune, and a byte that opens none is `RuneError` on its own (`runes`, which loses
and repeats no byte, `flatten_runes`). `TrimSpace` removes the runes `unicode.IsSpace` accepts,
the no-break space among them, and returns a slice of its argument (`trimSpace_slice`);
`ToUpper` maps each rune through `unicode.ToUpper`, whose table maps `ı` to `I` and `ſ` to `S`.

`parseRowsAffected` splits a command tag at spaces and parses the last word with
`strconv.ParseInt(_, 10, 64)`, which answers `0` on a syntax error and clamps to the `int64`
range on overflow: the decimal a server writes after the last space reads back as its value,
clamped (`parseRowsAffected_lastWord`). Event identifiers are `strconv.FormatUint(n, 10)`, whose
digits the same parser reads back as `n` (`parseDigits_formatUint`), so that two identifiers are
equal only when their numbers are.
-/

import Mathlib.Algebra.Group.Int
import Mathlib.Data.Nat.Digits
import SqlTap.Wire

namespace SqlTap.Postgres

/-! ### UTF-8 -/

/-- `utf8.RuneError`, U+FFFD: the rune decoding gives a byte that opens no valid sequence. -/
def runeError : Nat := 0xFFFD

/-- The length of the sequence a byte from `0x80` up opens, and the range its second byte must
lie in, as `utf8.first` and `acceptRanges` give them; `none` for a byte that opens no sequence
(a continuation byte, `0xC0`, `0xC1`, and `0xF5` up). -/
def leadByte (b0 : UInt8) : Option (Nat × UInt8 × UInt8) :=
  if 0xC2 ≤ b0 ∧ b0 ≤ 0xDF then some (2, 0x80, 0xBF)
  else if b0 = 0xE0 then some (3, 0xA0, 0xBF)
  else if 0xE1 ≤ b0 ∧ b0 ≤ 0xEC ∨ 0xEE ≤ b0 ∧ b0 ≤ 0xEF then some (3, 0x80, 0xBF)
  else if b0 = 0xED then some (3, 0x80, 0x9F)
  else if b0 = 0xF0 then some (4, 0x90, 0xBF)
  else if 0xF1 ≤ b0 ∧ b0 ≤ 0xF3 then some (4, 0x80, 0xBF)
  else if b0 = 0xF4 then some (4, 0x80, 0x8F)
  else none

/-- A continuation byte, `0x80` to `0xBF`. -/
def isTail (byte : UInt8) : Bool := 0x80 ≤ byte && byte ≤ 0xBF

/-- `utf8.DecodeRune`: the rune a text opens with and the number of bytes it takes. A sequence
that is cut short or has a byte out of its range gives `RuneError` and one byte. -/
def decodeRune : Bytes → Nat × Nat
  | [] => (runeError, 0)
  | b0 :: rest =>
    if b0 < 0x80 then (b0.toNat, 1)
    else
      match leadByte b0, rest with
      | some (2, lo, hi), b1 :: _ =>
        if lo ≤ b1 ∧ b1 ≤ hi then (b0.toNat % 0x20 * 0x40 + b1.toNat % 0x40, 2)
        else (runeError, 1)
      | some (3, lo, hi), b1 :: b2 :: _ =>
        if lo ≤ b1 ∧ b1 ≤ hi ∧ isTail b2 then
          ((b0.toNat % 0x10 * 0x40 + b1.toNat % 0x40) * 0x40 + b2.toNat % 0x40, 3)
        else (runeError, 1)
      | some (4, lo, hi), b1 :: b2 :: b3 :: _ =>
        if lo ≤ b1 ∧ b1 ≤ hi ∧ isTail b2 ∧ isTail b3 then
          (((b0.toNat % 0x08 * 0x40 + b1.toNat % 0x40) * 0x40 + b2.toNat % 0x40) * 0x40 +
            b3.toNat % 0x40, 4)
        else (runeError, 1)
      | _, _ => (runeError, 1)

/-- A Go `for range` loop over a text, given `fuel` turns: each rune with the bytes it was
decoded from. -/
def runesFrom : Nat → Bytes → List (Nat × Bytes)
  | 0, _ => []
  | _, [] => []
  | fuel + 1, text =>
    ((decodeRune text).1, text.take (decodeRune text).2) ::
      runesFrom fuel (text.drop (decodeRune text).2)

/-- The runes of a text, in order. Each takes at least one byte, so the text's length is fuel
enough. -/
def runes (text : Bytes) : List (Nat × Bytes) := runesFrom text.length text

/-- `utf8.AppendRune`: the UTF-8 bytes of a rune; a surrogate half or a value past U+10FFFF is
written as `RuneError`. -/
def encodeRune (rune : Nat) : Bytes :=
  if rune < 0x80 then [rune.toUInt8]
  else if rune < 0x800 then [(0xC0 + rune / 0x40).toUInt8, (0x80 + rune % 0x40).toUInt8]
  else if 0xD800 ≤ rune ∧ rune ≤ 0xDFFF ∨ 0x10FFFF < rune then [0xEF, 0xBF, 0xBD]
  else if rune < 0x10000 then
    [(0xE0 + rune / 0x1000).toUInt8, (0x80 + rune / 0x40 % 0x40).toUInt8,
      (0x80 + rune % 0x40).toUInt8]
  else
    [(0xF0 + rune / 0x40000).toUInt8, (0x80 + rune / 0x1000 % 0x40).toUInt8,
      (0x80 + rune / 0x40 % 0x40).toUInt8, (0x80 + rune % 0x40).toUInt8]

/-! ### unicode -/

/-- `unicode.IsSpace`: in Latin-1 tab, newline, vertical tab, form feed, carriage return, space,
U+0085 and U+00A0; above it the runes of Unicode's White_Space property. -/
def isSpace (rune : Nat) : Bool :=
  if rune ≤ 0xFF then [0x09, 0x0A, 0x0B, 0x0C, 0x0D, 0x20, 0x85, 0xA0].contains rune
  else
    [0x1680, 0x2028, 0x2029, 0x202F, 0x205F, 0x3000].contains rune ||
      (0x2000 ≤ rune && rune ≤ 0x200A)

/-- How `unicode.ToUpper` maps the runes of one of Go's `CaseRanges`: by a fixed offset, or, in
an `UpperLower` range, each rune at an odd distance from the start to the one before it. -/
inductive UpperDelta where
  | offset (delta : Int)
  | upperLower
  deriving DecidableEq, Repr

/-- A range of runes that `unicode.ToUpper` maps in one way. -/
structure CaseRange where
  lo : Nat
  hi : Nat
  delta : UpperDelta
  deriving DecidableEq, Repr

/-- The ranges of `upperCaseRanges` from Basic Latin to Latin Extended-B. -/
def latinCaseRanges : List CaseRange := [
  ⟨0x61, 0x7A, .offset (-32)⟩, ⟨0xB5, 0xB5, .offset 743⟩, ⟨0xE0, 0xF6, .offset (-32)⟩,
  ⟨0xF8, 0xFE, .offset (-32)⟩, ⟨0xFF, 0xFF, .offset 121⟩, ⟨0x100, 0x12F, .upperLower⟩,
  ⟨0x131, 0x131, .offset (-232)⟩, ⟨0x132, 0x137, .upperLower⟩, ⟨0x139, 0x148, .upperLower⟩,
  ⟨0x14A, 0x177, .upperLower⟩, ⟨0x179, 0x17E, .upperLower⟩, ⟨0x17F, 0x17F, .offset (-300)⟩,
  ⟨0x180, 0x180, .offset 195⟩, ⟨0x182, 0x185, .upperLower⟩, ⟨0x188, 0x188, .offset (-1)⟩,
  ⟨0x18C, 0x18C, .offset (-1)⟩, ⟨0x192, 0x192, .offset (-1)⟩, ⟨0x195, 0x195, .offset 97⟩,
  ⟨0x199, 0x199, .offset (-1)⟩, ⟨0x19A, 0x19A, .offset 163⟩, ⟨0x19E, 0x19E, .offset 130⟩,
  ⟨0x1A0, 0x1A5, .upperLower⟩, ⟨0x1A8, 0x1A8, .offset (-1)⟩, ⟨0x1AD, 0x1AD, .offset (-1)⟩,
  ⟨0x1B0, 0x1B0, .offset (-1)⟩, ⟨0x1B3, 0x1B6, .upperLower⟩, ⟨0x1B9, 0x1B9, .offset (-1)⟩,
  ⟨0x1BD, 0x1BD, .offset (-1)⟩, ⟨0x1BF, 0x1BF, .offset 56⟩, ⟨0x1C5, 0x1C5, .offset (-1)⟩,
  ⟨0x1C6, 0x1C6, .offset (-2)⟩, ⟨0x1C8, 0x1C8, .offset (-1)⟩, ⟨0x1C9, 0x1C9, .offset (-2)⟩,
  ⟨0x1CB, 0x1CB, .offset (-1)⟩, ⟨0x1CC, 0x1CC, .offset (-2)⟩, ⟨0x1CD, 0x1DC, .upperLower⟩,
  ⟨0x1DD, 0x1DD, .offset (-79)⟩, ⟨0x1DE, 0x1EF, .upperLower⟩, ⟨0x1F2, 0x1F2, .offset (-1)⟩,
  ⟨0x1F3, 0x1F3, .offset (-2)⟩, ⟨0x1F5, 0x1F5, .offset (-1)⟩, ⟨0x1F8, 0x21F, .upperLower⟩,
  ⟨0x222, 0x233, .upperLower⟩, ⟨0x23C, 0x23C, .offset (-1)⟩, ⟨0x23F, 0x240, .offset 10815⟩,
  ⟨0x242, 0x242, .offset (-1)⟩, ⟨0x246, 0x24F, .upperLower⟩]

/-- The ranges of `upperCaseRanges` from IPA Extensions and the combining ypogegrammeni. -/
def ipaCaseRanges : List CaseRange := [
  ⟨0x250, 0x250, .offset 10783⟩, ⟨0x251, 0x251, .offset 10780⟩, ⟨0x252, 0x252, .offset 10782⟩,
  ⟨0x253, 0x253, .offset (-210)⟩, ⟨0x254, 0x254, .offset (-206)⟩, ⟨0x256, 0x257, .offset (-205)⟩,
  ⟨0x259, 0x259, .offset (-202)⟩, ⟨0x25B, 0x25B, .offset (-203)⟩, ⟨0x25C, 0x25C, .offset 42319⟩,
  ⟨0x260, 0x260, .offset (-205)⟩, ⟨0x261, 0x261, .offset 42315⟩, ⟨0x263, 0x263, .offset (-207)⟩,
  ⟨0x265, 0x265, .offset 42280⟩, ⟨0x266, 0x266, .offset 42308⟩, ⟨0x268, 0x268, .offset (-209)⟩,
  ⟨0x269, 0x269, .offset (-211)⟩, ⟨0x26A, 0x26A, .offset 42308⟩, ⟨0x26B, 0x26B, .offset 10743⟩,
  ⟨0x26C, 0x26C, .offset 42305⟩, ⟨0x26F, 0x26F, .offset (-211)⟩, ⟨0x271, 0x271, .offset 10749⟩,
  ⟨0x272, 0x272, .offset (-213)⟩, ⟨0x275, 0x275, .offset (-214)⟩, ⟨0x27D, 0x27D, .offset 10727⟩,
  ⟨0x280, 0x280, .offset (-218)⟩, ⟨0x282, 0x282, .offset 42307⟩, ⟨0x283, 0x283, .offset (-218)⟩,
  ⟨0x287, 0x287, .offset 42282⟩, ⟨0x288, 0x288, .offset (-218)⟩, ⟨0x289, 0x289, .offset (-69)⟩,
  ⟨0x28A, 0x28B, .offset (-217)⟩, ⟨0x28C, 0x28C, .offset (-71)⟩, ⟨0x292, 0x292, .offset (-219)⟩,
  ⟨0x29D, 0x29D, .offset 42261⟩, ⟨0x29E, 0x29E, .offset 42258⟩, ⟨0x345, 0x345, .offset 84⟩]

/-- The ranges of `upperCaseRanges` from Greek, Cyrillic and Armenian. -/
def greekCyrillicCaseRanges : List CaseRange := [
  ⟨0x370, 0x373, .upperLower⟩, ⟨0x377, 0x377, .offset (-1)⟩, ⟨0x37B, 0x37D, .offset 130⟩,
  ⟨0x3AC, 0x3AC, .offset (-38)⟩, ⟨0x3AD, 0x3AF, .offset (-37)⟩, ⟨0x3B1, 0x3C1, .offset (-32)⟩,
  ⟨0x3C2, 0x3C2, .offset (-31)⟩, ⟨0x3C3, 0x3CB, .offset (-32)⟩, ⟨0x3CC, 0x3CC, .offset (-64)⟩,
  ⟨0x3CD, 0x3CE, .offset (-63)⟩, ⟨0x3D0, 0x3D0, .offset (-62)⟩, ⟨0x3D1, 0x3D1, .offset (-57)⟩,
  ⟨0x3D5, 0x3D5, .offset (-47)⟩, ⟨0x3D6, 0x3D6, .offset (-54)⟩, ⟨0x3D7, 0x3D7, .offset (-8)⟩,
  ⟨0x3D8, 0x3EF, .upperLower⟩, ⟨0x3F0, 0x3F0, .offset (-86)⟩, ⟨0x3F1, 0x3F1, .offset (-80)⟩,
  ⟨0x3F2, 0x3F2, .offset 7⟩, ⟨0x3F3, 0x3F3, .offset (-116)⟩, ⟨0x3F5, 0x3F5, .offset (-96)⟩,
  ⟨0x3F8, 0x3F8, .offset (-1)⟩, ⟨0x3FB, 0x3FB, .offset (-1)⟩, ⟨0x430, 0x44F, .offset (-32)⟩,
  ⟨0x450, 0x45F, .offset (-80)⟩, ⟨0x460, 0x481, .upperLower⟩, ⟨0x48A, 0x4BF, .upperLower⟩,
  ⟨0x4C1, 0x4CE, .upperLower⟩, ⟨0x4CF, 0x4CF, .offset (-15)⟩, ⟨0x4D0, 0x52F, .upperLower⟩,
  ⟨0x561, 0x586, .offset (-48)⟩]

/-- The ranges of `upperCaseRanges` from Georgian to Greek Extended. -/
def georgianToGreekCaseRanges : List CaseRange := [
  ⟨0x10D0, 0x10FA, .offset 3008⟩, ⟨0x10FD, 0x10FF, .offset 3008⟩, ⟨0x13F8, 0x13FD, .offset (-8)⟩,
  ⟨0x1C80, 0x1C80, .offset (-6254)⟩, ⟨0x1C81, 0x1C81, .offset (-6253)⟩,
  ⟨0x1C82, 0x1C82, .offset (-6244)⟩, ⟨0x1C83, 0x1C84, .offset (-6242)⟩,
  ⟨0x1C85, 0x1C85, .offset (-6243)⟩, ⟨0x1C86, 0x1C86, .offset (-6236)⟩,
  ⟨0x1C87, 0x1C87, .offset (-6181)⟩, ⟨0x1C88, 0x1C88, .offset 35266⟩,
  ⟨0x1D79, 0x1D79, .offset 35332⟩, ⟨0x1D7D, 0x1D7D, .offset 3814⟩, ⟨0x1D8E, 0x1D8E, .offset 35384⟩,
  ⟨0x1E00, 0x1E95, .upperLower⟩, ⟨0x1E9B, 0x1E9B, .offset (-59)⟩, ⟨0x1EA0, 0x1EFF, .upperLower⟩,
  ⟨0x1F00, 0x1F07, .offset 8⟩, ⟨0x1F10, 0x1F15, .offset 8⟩, ⟨0x1F20, 0x1F27, .offset 8⟩,
  ⟨0x1F30, 0x1F37, .offset 8⟩, ⟨0x1F40, 0x1F45, .offset 8⟩, ⟨0x1F51, 0x1F51, .offset 8⟩,
  ⟨0x1F53, 0x1F53, .offset 8⟩, ⟨0x1F55, 0x1F55, .offset 8⟩, ⟨0x1F57, 0x1F57, .offset 8⟩,
  ⟨0x1F60, 0x1F67, .offset 8⟩, ⟨0x1F70, 0x1F71, .offset 74⟩, ⟨0x1F72, 0x1F75, .offset 86⟩,
  ⟨0x1F76, 0x1F77, .offset 100⟩, ⟨0x1F78, 0x1F79, .offset 128⟩, ⟨0x1F7A, 0x1F7B, .offset 112⟩,
  ⟨0x1F7C, 0x1F7D, .offset 126⟩, ⟨0x1F80, 0x1F87, .offset 8⟩, ⟨0x1F90, 0x1F97, .offset 8⟩,
  ⟨0x1FA0, 0x1FA7, .offset 8⟩, ⟨0x1FB0, 0x1FB1, .offset 8⟩, ⟨0x1FB3, 0x1FB3, .offset 9⟩,
  ⟨0x1FBE, 0x1FBE, .offset (-7205)⟩, ⟨0x1FC3, 0x1FC3, .offset 9⟩, ⟨0x1FD0, 0x1FD1, .offset 8⟩,
  ⟨0x1FE0, 0x1FE1, .offset 8⟩, ⟨0x1FE5, 0x1FE5, .offset 7⟩, ⟨0x1FF3, 0x1FF3, .offset 9⟩]

/-- The ranges of `upperCaseRanges` from letterlike symbols to the fullwidth forms. -/
def symbolsToFullwidthCaseRanges : List CaseRange := [
  ⟨0x214E, 0x214E, .offset (-28)⟩, ⟨0x2170, 0x217F, .offset (-16)⟩, ⟨0x2184, 0x2184, .offset (-1)⟩,
  ⟨0x24D0, 0x24E9, .offset (-26)⟩, ⟨0x2C30, 0x2C5F, .offset (-48)⟩, ⟨0x2C61, 0x2C61, .offset (-1)⟩,
  ⟨0x2C65, 0x2C65, .offset (-10795)⟩, ⟨0x2C66, 0x2C66, .offset (-10792)⟩,
  ⟨0x2C67, 0x2C6C, .upperLower⟩, ⟨0x2C73, 0x2C73, .offset (-1)⟩, ⟨0x2C76, 0x2C76, .offset (-1)⟩,
  ⟨0x2C80, 0x2CE3, .upperLower⟩, ⟨0x2CEB, 0x2CEE, .upperLower⟩, ⟨0x2CF3, 0x2CF3, .offset (-1)⟩,
  ⟨0x2D00, 0x2D25, .offset (-7264)⟩, ⟨0x2D27, 0x2D27, .offset (-7264)⟩,
  ⟨0x2D2D, 0x2D2D, .offset (-7264)⟩, ⟨0xA640, 0xA66D, .upperLower⟩, ⟨0xA680, 0xA69B, .upperLower⟩,
  ⟨0xA722, 0xA72F, .upperLower⟩, ⟨0xA732, 0xA76F, .upperLower⟩, ⟨0xA779, 0xA77C, .upperLower⟩,
  ⟨0xA77E, 0xA787, .upperLower⟩, ⟨0xA78C, 0xA78C, .offset (-1)⟩, ⟨0xA790, 0xA793, .upperLower⟩,
  ⟨0xA794, 0xA794, .offset 48⟩, ⟨0xA796, 0xA7A9, .upperLower⟩, ⟨0xA7B4, 0xA7C3, .upperLower⟩,
  ⟨0xA7C7, 0xA7CA, .upperLower⟩, ⟨0xA7D1, 0xA7D1, .offset (-1)⟩, ⟨0xA7D6, 0xA7D9, .upperLower⟩,
  ⟨0xA7F6, 0xA7F6, .offset (-1)⟩, ⟨0xAB53, 0xAB53, .offset (-928)⟩,
  ⟨0xAB70, 0xABBF, .offset (-38864)⟩, ⟨0xFF41, 0xFF5A, .offset (-32)⟩]

/-- The ranges of `upperCaseRanges` from the supplementary planes. -/
def supplementaryCaseRanges : List CaseRange := [
  ⟨0x10428, 0x1044F, .offset (-40)⟩, ⟨0x104D8, 0x104FB, .offset (-40)⟩,
  ⟨0x10597, 0x105A1, .offset (-39)⟩, ⟨0x105A3, 0x105B1, .offset (-39)⟩,
  ⟨0x105B3, 0x105B9, .offset (-39)⟩, ⟨0x105BB, 0x105BC, .offset (-39)⟩,
  ⟨0x10CC0, 0x10CF2, .offset (-64)⟩, ⟨0x118C0, 0x118DF, .offset (-32)⟩,
  ⟨0x16E60, 0x16E7F, .offset (-32)⟩, ⟨0x1E922, 0x1E943, .offset (-34)⟩]

/-- The upper-case half of Go's `CaseRanges`: the simple uppercase mappings of the Unicode
Character Database (version 14.0), as ranges of one offset or of alternating upper and lower
case, in order. A rune in no range is its own upper case. -/
def upperCaseRanges : List CaseRange :=
  latinCaseRanges ++ ipaCaseRanges ++ greekCyrillicCaseRanges ++ georgianToGreekCaseRanges ++
    symbolsToFullwidthCaseRanges ++ supplementaryCaseRanges

/-- `unicode.ToUpper`: `a` to `z` shifted down by 32 among ASCII runes, and above them the
mapping of the range of `upperCaseRanges` the rune lies in. -/
def unicodeToUpper (rune : Nat) : Nat :=
  if rune ≤ 0x7F then if 97 ≤ rune ∧ rune ≤ 122 then rune - 32 else rune
  else
    match upperCaseRanges.find? (fun range => range.lo ≤ rune ∧ rune ≤ range.hi) with
    | some ⟨_, _, .offset delta⟩ => (rune + delta).toNat
    | some ⟨lo, _, .upperLower⟩ => lo + (rune - lo) / 2 * 2
    | none => rune

/-! ### strings -/

/-- `strings.TrimSpace`: the text without its leading and trailing white-space runes. Go scans
ASCII bytes first and falls back on `TrimFunc(_, unicode.IsSpace)` at the first other byte,
whose right-hand half decodes from the end; a white-space rune opens with a byte that never
continues a sequence, so decoding from either end finds the same white space. -/
def trimSpace (text : Bytes) : Bytes :=
  let leading := (runes text).dropWhile fun rune => isSpace rune.1
  ((leading.reverse.dropWhile fun rune => isSpace rune.1).reverse.map Prod.snd).flatten

/-- `unicode.ToUpper` on an ASCII byte: `a` to `z` are shifted down by 32. -/
def upperByte (byte : UInt8) : UInt8 :=
  if 97 ≤ byte ∧ byte ≤ 122 then byte - 32 else byte

/-- `strings.ToUpper`: ASCII text has its letters shifted byte by byte; any other text is
`strings.Map(unicode.ToUpper, _)`, which writes each rune's upper case, `RuneError` for a byte
that opens no sequence. -/
def toUpper (text : Bytes) : Bytes :=
  if text.all (· < 0x80) then text.map upperByte
  else ((runes text).map fun rune => encodeRune (unicodeToUpper rune.1)).flatten

/-- `strings.HasPrefix`. -/
def hasPrefix (text pre : Bytes) : Bool := pre.isPrefixOf text

/-- `strings.Split(text, " ")`: the words between single spaces, empty ones included. There is
always at least one. -/
def splitSpace (text : Bytes) : List Bytes := text.splitOn 32

/-! ### Decoding loses and repeats no byte -/

/-- A rune of a non-empty text takes at least one of its bytes and at most all of them. -/
theorem decodeRune_width {text : Bytes} (nonempty : text ≠ []) :
    1 ≤ (decodeRune text).2 ∧ (decodeRune text).2 ≤ text.length := by
  obtain ⟨b0, rest, rfl⟩ := List.exists_cons_of_ne_nil nonempty
  simp only [decodeRune]
  split
  · simp
  · split
    all_goals first | (split <;> simp_all) | simp

theorem flatten_runesFrom : ∀ (fuel : Nat) (text : Bytes), text.length ≤ fuel →
    ((runesFrom fuel text).map Prod.snd).flatten = text
  | 0, [], _ => rfl
  | _, [], _ => by cases ‹Nat› <;> rfl
  | fuel + 1, b0 :: rest, enough => by
    have ⟨atLeastOne, atMost⟩ := decodeRune_width (List.cons_ne_nil b0 rest)
    have shorter : ((b0 :: rest).drop (decodeRune (b0 :: rest)).2).length ≤ fuel := by
      simp only [List.length_drop, List.length_cons] at enough atMost ⊢
      omega
    simp only [runesFrom, List.map_cons, List.flatten_cons, flatten_runesFrom fuel _ shorter,
      List.take_append_drop]

/-- The runes of a text, their bytes put back together, are the text. -/
theorem flatten_runes (text : Bytes) : ((runes text).map Prod.snd).flatten = text :=
  flatten_runesFrom _ text le_rfl

/-- Pieces kept in one stretch of a list of pieces put back together are a stretch of it. -/
theorem flatten_stretch {α : Type} {pieces pieces' : List (List α)} (stretch : pieces <:+: pieces') :
    pieces.flatten <:+: pieces'.flatten := by
  obtain ⟨before, after, rfl⟩ := stretch
  exact ⟨before.flatten, after.flatten, by simp only [List.flatten_append]⟩

/-- `strings.TrimSpace` returns a slice of its argument. -/
theorem trimSpace_slice (text : Bytes) : trimSpace text <:+: text := by
  let space := fun rune : Nat × Bytes => isSpace rune.1
  have leading : (runes text).dropWhile space <:+ runes text := List.dropWhile_suffix space
  have trailing := List.reverse_prefix.mpr
    (List.dropWhile_suffix space : (((runes text).dropWhile space).reverse).dropWhile space <:+ _)
  rw [List.reverse_reverse] at trailing
  have kept := flatten_stretch ((trailing.isInfix.trans leading.isInfix).map Prod.snd)
  rwa [flatten_runes] at kept

/-! ### strconv -/

/-- `strconv.FormatUint(value, 10)`: the decimal digits of `value`. -/
def formatUint (value : Nat) : Bytes := (Nat.toDigits 10 value).map Char.toUInt8

/-- The decimal value of a non-empty run of ASCII digits, or `none` when the run is empty or
holds another byte. -/
def parseDigits (text : Bytes) : Option Nat :=
  if text ≠ [] ∧ text.all (fun byte => 48 ≤ byte ∧ byte ≤ 57) then
    some (text.foldl (fun value byte => value * 10 + (byte.toNat - 48)) 0)
  else none

/-- The sign `strconv.ParseInt` strips before it parses the digits: whether the value is
negative, and the bytes after the sign. -/
def splitSign : Bytes → Bool × Bytes
  | 43 :: rest => (false, rest)
  | 45 :: rest => (true, rest)
  | text => (false, text)

/-- `strconv.ParseInt(text, 10, 64)` with its error dropped: an optional sign, then digits; a
syntax error gives `0`, and a value outside the `int64` range is clamped to its nearer end. -/
def parseInt (text : Bytes) : Int :=
  match parseDigits (splitSign text).2 with
  | none => 0
  | some value =>
    if (splitSign text).1 then -(min value (2 ^ 63) : Nat) else (min value (2 ^ 63 - 1) : Nat)

/-- `parseRowsAffected`: the last space-separated word of a command tag, parsed as an `int64`
with a syntax error read as zero. -/
def parseRowsAffected (tag : Bytes) : Int :=
  match (splitSpace tag).getLast? with
  | none => 0
  | some word => parseInt word

/-! ### Decimal round trip -/

/-- The byte of each decimal digit is an ASCII digit whose value is that digit. -/
theorem digitChar_toUInt8 : ∀ digit < 10, 48 ≤ (Nat.digitChar digit).toUInt8 ∧
    (Nat.digitChar digit).toUInt8 ≤ 57 ∧ (Nat.digitChar digit).toUInt8.toNat = 48 + digit := by
  decide

/-- With enough fuel, `Nat.toDigitsCore` writes before what it is given a non-empty run of
ASCII digits, whose decimal value is the number. -/
theorem toDigitsCore_digits (fuel value : Nat) (suffix : List Char) (enough : value < fuel) :
    ∃ digits : Bytes, (Nat.toDigitsCore 10 fuel value suffix).map Char.toUInt8 =
        digits ++ suffix.map Char.toUInt8 ∧ digits ≠ [] ∧
      digits.all (fun byte => 48 ≤ byte ∧ byte ≤ 57) ∧
      digits.foldl (fun value byte => value * 10 + (byte.toNat - 48)) 0 = value := by
  induction fuel generalizing value suffix with
  | zero => omega
  | succ fuel inductionHypothesis =>
    have ⟨low, high, digitValue⟩ := digitChar_toUInt8 (value % 10) (Nat.mod_lt _ (by decide))
    simp only [Nat.toDigitsCore]
    split
    · next single =>
      refine ⟨[(Nat.digitChar (value % 10)).toUInt8], rfl, List.cons_ne_nil _ _, ?_, ?_⟩
      · simp [low, high]
      · simp only [List.foldl_cons, List.foldl_nil, digitValue]
        omega
    · next more =>
      obtain ⟨digits, written, nonempty, allDigits, parsed⟩ :=
        inductionHypothesis (value / 10) (Nat.digitChar (value % 10) :: suffix) (by omega)
      refine ⟨digits ++ [(Nat.digitChar (value % 10)).toUInt8], ?_, by simp, ?_, ?_⟩
      · simp [written]
      · rw [List.all_append, allDigits]
        simp [low, high]
      · simp only [List.foldl_append, parsed, List.foldl_cons, List.foldl_nil, digitValue]
        omega

/-- `strconv.FormatUint` writes a non-empty run of ASCII digits, whose decimal value is the
number. -/
theorem formatUint_digits (value : Nat) :
    formatUint value ≠ [] ∧ (formatUint value).all (fun byte => 48 ≤ byte ∧ byte ≤ 57) ∧
      (formatUint value).foldl (fun value byte => value * 10 + (byte.toNat - 48)) 0 = value := by
  obtain ⟨digits, written, digitsFacts⟩ :=
    toDigitsCore_digits (value + 1) value [] (Nat.lt_succ_self value)
  rw [formatUint, Nat.toDigits, written, List.map_nil, List.append_nil]
  exact digitsFacts

/-- `strconv.FormatUint` and the digits parser of `strconv.ParseInt` are inverse: the decimal
of a number parses back to it. -/
theorem parseDigits_formatUint (value : Nat) : parseDigits (formatUint value) = some value := by
  obtain ⟨nonempty, allDigits, parsed⟩ := formatUint_digits value
  unfold parseDigits
  rw [if_pos ⟨nonempty, allDigits⟩, parsed]

theorem formatUint_injective {first second : Nat} (same : formatUint first = formatUint second) :
    first = second :=
  Option.some.inj ((parseDigits_formatUint first).symm.trans
    (same ▸ parseDigits_formatUint second))

/-- The pieces `splitOnP` cuts a list into end with what follows its last separator. -/
theorem splitOnP_append_cons {α : Type} (p : α → Bool) {separator : α} (isSeparator : p separator)
    (word : List α) (noSeparator : ∀ x ∈ word, ¬p x) :
    ∀ leading : List α, ∃ pieces, pieces ≠ [] ∧
      (leading ++ separator :: word).splitOnP p = pieces ++ [word]
  | [] => ⟨[[]], List.cons_ne_nil _ _, by
      simp [List.splitOnP_cons, isSeparator, List.splitOnP_eq_single _ _ noSeparator]⟩
  | x :: leading => by
    obtain ⟨pieces, nonempty, split⟩ := splitOnP_append_cons p isSeparator word noSeparator leading
    obtain ⟨first, rest, rfl⟩ := List.exists_cons_of_ne_nil nonempty
    by_cases cut : p x
    · exact ⟨[] :: first :: rest, List.cons_ne_nil _ _, by simp [cut, split]⟩
    · exact ⟨(x :: first) :: rest, List.cons_ne_nil _ _, by simp [cut, split]⟩

/-- The last word of a command tag, when it follows a space. -/
theorem splitSpace_getLast? (leading word : Bytes) (noSpace : 32 ∉ word) :
    (splitSpace (leading ++ 32 :: word)).getLast? = some word := by
  obtain ⟨pieces, -, split⟩ := splitOnP_append_cons (· == 32) (beq_self_eq_true 32) word
    (fun byte member same => noSpace (by rwa [beq_iff_eq.mp same] at member)) leading
  simp only [splitSpace, List.splitOn, split, List.getLast?_append, List.getLast?_singleton]
  rfl

/-- `strconv.ParseInt` reads the decimal `strconv.FormatUint` writes as its value, clamped to
the `int64` maximum. -/
theorem parseInt_formatUint (value : Nat) :
    parseInt (formatUint value) = ((min value (2 ^ 63 - 1) : Nat) : Int) := by
  obtain ⟨nonempty, allDigits, -⟩ := formatUint_digits value
  have unsigned : splitSign (formatUint value) = (false, formatUint value) := by
    obtain ⟨first, rest, split⟩ := List.exists_cons_of_ne_nil nonempty
    have digit := List.all_eq_true.mp allDigits first (by simp [split])
    rw [split]
    unfold splitSign
    split <;> simp_all
  simp only [parseInt, unsigned, parseDigits_formatUint, Bool.false_eq_true, if_false]

/-- The row count a server writes at the end of a command tag, in decimal, is read back:
whatever precedes its last space, a tag ending in the digits of `n` (or made of them alone)
gives `n`, clamped to the `int64` maximum, and a tag whose last word is empty, as after a
trailing space, gives zero. -/
theorem parseRowsAffected_lastWord (leading : Bytes) (n : Nat) :
    parseRowsAffected (leading ++ 32 :: formatUint n) = ((min n (2 ^ 63 - 1) : Nat) : Int) ∧
      parseRowsAffected (formatUint n) = ((min n (2 ^ 63 - 1) : Nat) : Int) ∧
      parseRowsAffected (leading ++ [32]) = 0 := by
  have noSpace : 32 ∉ formatUint n := fun member => by
    have := List.all_eq_true.mp (formatUint_digits n).2.1 _ member
    simp at this
  have alone : splitSpace (formatUint n) = [formatUint n] :=
    List.splitOnP_eq_single _ _ fun byte member same => noSpace (by rwa [beq_iff_eq.mp same] at member)
  refine ⟨?_, ?_, ?_⟩
  · rw [parseRowsAffected, splitSpace_getLast? leading _ noSpace]
    exact parseInt_formatUint n
  · rw [parseRowsAffected, alone, List.getLast?_singleton]
    exact parseInt_formatUint n
  · rw [parseRowsAffected, splitSpace_getLast? leading [] (List.not_mem_nil _)]
    rfl

example : parseRowsAffected (ascii "INSERT 0 5") = 5 := by decide

end SqlTap.Postgres
