import Workshop.Text.Charset.Grid
import Workshop.Text.Charset.Grid.Big5
import Workshop.Text.Charset.Grid.Gb2312
import Workshop.Text.Charset.Grid.Hkscs
import Workshop.Text.Charset.Step

/-!
# Chinese character sets

One family begins with the standard GB 2312, whose rows and cells are named by bytes plus 0xA0: GBK
fills the bytes in between with the ideographs that the standard has not, and GB 18030 names all
other characters by four bytes.  The other family begins with Big5.

HZ writes GB 2312 in the bytes of ASCII.  A tilde and a brace begin a passage of characters from the
rows, and another brace behind a tilde ends it; two tildes stand for one, and a tilde at the end of
a line joins the line to the next one.
-/

namespace Workshop.Text.Charset

namespace Chinese

/-! ## The family of GB 2312 -/

/-- GB 2312. -/
def gb2312 : Step :=
  Step.pair fun a b => (Grid.gb2312.char? (a - 0xA0) (b - 0xA0)).map ([·])

/-- The place of a second byte among 190. -/
def trailGbk? (b : Nat) : Option Nat :=
  if 0x40 ≤ b ∧ b ≤ 0x7E then some (b - 0x40)
  else if 0x80 ≤ b ∧ b ≤ 0xFE then some (b - 0x41)
  else none

/-- Ideographs that take the last cells, in the order of the cells. -/
def lastIdeographs : String :=
  "\uf92c\uf979\uf995\uf9e7\uf9f1\ufa0c\ufa0d\ufa0e\ufa0f\ufa11\ufa13\ufa14\ufa18\ufa1f\ufa20" ++
    "\ufa21\ufa23\ufa24\ufa27\ufa28\ufa29"

/-- The ideographs that GB 2312 does not hold. -/
def otherIdeographs : Array Char :=
  Grid.gb2312.others 0x4E00 20902 ++ lastIdeographs.toList.toArray

/-- The place of an ideograph among the others: the first rows have 190 cells and the last ones
96. -/
def placeGbk? (a trail : Nat) : Option Nat :=
  if 0x81 ≤ a ∧ a ≤ 0xA0 then some ((a - 0x81) * 190 + trail)
  else if 0xAA ≤ a ∧ trail < 96 then some (32 * 190 + (a - 0xAA) * 96 + trail)
  else none

/-- The character of GBK that two bytes name. -/
def gbkChar? (a b : Nat) : Option Char :=
  (trailGbk? b).bind fun trail =>
    (Grid.gbkMarks.char? a trail).or <|
      (Grid.gb2312.char? (a - 0xA0) (b - 0xA0)).or <|
        (placeGbk? a trail).bind fun n => otherIdeographs[n]?

/-- GBK. -/
def gbk : Step :=
  Step.pair fun a b => (gbkChar? a b).map ([·])

/-- The cells that GB 18030 fills with single characters, and with characters for private use. -/
def runs18030 : List Run :=
  [ ⟨0xa1, 0, 96, 0xe4c6⟩, ⟨0xa2, 0, 96, 0xe526⟩, ⟨0xa2, 106, 6, 0xe766⟩, ⟨0xa2, 162, 1, 0x20ac⟩,
    ⟨0xa2, 163, 1, 0xe76d⟩, ⟨0xa2, 174, 2, 0xe76e⟩, ⟨0xa2, 188, 2, 0xe770⟩, ⟨0xa3, 0, 96, 0xe586⟩,
    ⟨0xa4, 0, 96, 0xe5e6⟩, ⟨0xa4, 179, 11, 0xe772⟩, ⟨0xa5, 0, 96, 0xe646⟩, ⟨0xa5, 182, 8, 0xe77d⟩,
    ⟨0xa6, 0, 96, 0xe6a6⟩, ⟨0xa6, 120, 8, 0xe785⟩, ⟨0xa6, 152, 7, 0xe78d⟩, ⟨0xa6, 171, 2, 0xe794⟩,
    ⟨0xa6, 178, 1, 0xe796⟩, ⟨0xa6, 181, 9, 0xe797⟩, ⟨0xa7, 0, 96, 0xe706⟩,
    ⟨0xa7, 129, 15, 0xe7a0⟩, ⟨0xa7, 177, 13, 0xe7af⟩, ⟨0xa8, 85, 11, 0xe7bc⟩,
    ⟨0xa8, 123, 1, 0xe7c7⟩, ⟨0xa8, 126, 1, 0x01f9⟩, ⟨0xa8, 128, 4, 0xe7c9⟩,
    ⟨0xa8, 169, 21, 0xe7cd⟩, ⟨0xa9, 24, 1, 0xe7e2⟩, ⟨0xa9, 27, 1, 0xe7e3⟩, ⟨0xa9, 29, 3, 0xe7e4⟩,
    ⟨0xa9, 72, 1, 0x303e⟩, ⟨0xa9, 73, 12, 0x2ff0⟩, ⟨0xa9, 86, 13, 0xe7f4⟩,
    ⟨0xa9, 175, 15, 0xe801⟩, ⟨0xaa, 96, 94, 0xe000⟩, ⟨0xab, 96, 94, 0xe05e⟩,
    ⟨0xac, 96, 94, 0xe0bc⟩, ⟨0xad, 96, 94, 0xe11a⟩, ⟨0xae, 96, 94, 0xe178⟩,
    ⟨0xaf, 96, 94, 0xe1d6⟩, ⟨0xd7, 185, 5, 0xe810⟩, ⟨0xf8, 96, 94, 0xe234⟩,
    ⟨0xf9, 96, 94, 0xe292⟩, ⟨0xfa, 96, 94, 0xe2f0⟩, ⟨0xfb, 96, 94, 0xe34e⟩,
    ⟨0xfc, 96, 94, 0xe3ac⟩, ⟨0xfd, 96, 94, 0xe40a⟩, ⟨0xfe, 96, 94, 0xe468⟩ ]

/-- The cells that GB 18030 fills with radicals and ideographs. -/
def grid18030 : Grid :=
  [ ⟨0xfe, 16, "⺁\ue816\ue817\ue818⺄㑳㑇⺈⺋\ue81e㖞㘚㘎⺌⺗㥮㤘\ue826㧏㧟㩳㧐\ue82b\ue82c㭎㱮㳠⺧\ue831\ue832⺪䁖䅟⺮䌷" ++
      "⺳⺶⺷\ue83b䎱䎬⺻䏝䓖䙡䙌\ue843䜣䜩䝼䞍⻊䥇䥺䥽䦂䦃䦅䦆䦟䦛䦷䦶\ue854\ue855䲣䲟䲠䲡䱷䲢䴓䴔䴕䴖䴗䴘䴙䶮\ue864"⟩ ]

/-- The character of GB 18030 that two bytes name. -/
def char18030? (a b : Nat) : Option Char :=
  (gbkChar? a b).or <|
    (trailGbk? b).bind fun trail =>
      (Run.char? runs18030 a trail).or (grid18030.char? a trail)

/-- The characters up to U+FFFF without two bytes: the places among four bytes from which their
numbers follow each other, and the number of the first one there. -/
def ranges18030 : List (Nat × Nat) :=
  [ (0, 0x0080), (36, 0x00a5), (38, 0x00a9), (45, 0x00b2), (50, 0x00b8), (81, 0x00d8),
    (89, 0x00e2), (95, 0x00eb), (96, 0x00ee), (100, 0x00f4), (103, 0x00f8), (104, 0x00fb),
    (105, 0x00fd), (109, 0x0102), (126, 0x0114), (133, 0x011c), (148, 0x012c), (172, 0x0145),
    (175, 0x0149), (179, 0x014e), (208, 0x016c), (306, 0x01cf), (307, 0x01d1), (308, 0x01d3),
    (309, 0x01d5), (310, 0x01d7), (311, 0x01d9), (312, 0x01db), (313, 0x01dd), (341, 0x01fa),
    (428, 0x0252), (443, 0x0262), (544, 0x02c8), (545, 0x02cc), (558, 0x02da), (741, 0x03a2),
    (742, 0x03aa), (749, 0x03c2), (750, 0x03ca), (805, 0x0402), (819, 0x0450), (820, 0x0452),
    (7922, 0x2011), (7924, 0x2017), (7925, 0x201a), (7927, 0x201e), (7934, 0x2027),
    (7943, 0x2031), (7944, 0x2034), (7945, 0x2036), (7950, 0x203c), (8062, 0x20ad),
    (8148, 0x2104), (8149, 0x2106), (8152, 0x210a), (8164, 0x2117), (8174, 0x2122),
    (8236, 0x216c), (8240, 0x217a), (8262, 0x2194), (8264, 0x219a), (8374, 0x2209),
    (8380, 0x2210), (8381, 0x2212), (8384, 0x2216), (8388, 0x221b), (8390, 0x2221),
    (8392, 0x2224), (8393, 0x2226), (8394, 0x222c), (8396, 0x222f), (8401, 0x2238),
    (8406, 0x223e), (8416, 0x2249), (8419, 0x224d), (8424, 0x2253), (8437, 0x2262),
    (8439, 0x2268), (8445, 0x2270), (8482, 0x2296), (8485, 0x229a), (8496, 0x22a6),
    (8521, 0x22c0), (8603, 0x2313), (8936, 0x246a), (8946, 0x249c), (9046, 0x254c),
    (9050, 0x2574), (9063, 0x2590), (9066, 0x2596), (9076, 0x25a2), (9092, 0x25b4),
    (9100, 0x25be), (9108, 0x25c8), (9111, 0x25cc), (9113, 0x25d0), (9131, 0x25e6),
    (9162, 0x2607), (9164, 0x260a), (9218, 0x2641), (9219, 0x2643), (11329, 0x2e82),
    (11331, 0x2e85), (11334, 0x2e89), (11336, 0x2e8d), (11346, 0x2e98), (11361, 0x2ea8),
    (11363, 0x2eab), (11366, 0x2eaf), (11370, 0x2eb4), (11372, 0x2eb8), (11375, 0x2ebc),
    (11389, 0x2ecb), (11682, 0x2ffc), (11686, 0x3004), (11687, 0x3018), (11692, 0x301f),
    (11694, 0x302a), (11714, 0x303f), (11716, 0x3094), (11723, 0x309f), (11725, 0x30f7),
    (11730, 0x30ff), (11736, 0x312a), (11982, 0x322a), (11989, 0x3232), (12102, 0x32a4),
    (12336, 0x3390), (12348, 0x339f), (12350, 0x33a2), (12384, 0x33c5), (12393, 0x33cf),
    (12395, 0x33d3), (12397, 0x33d6), (12510, 0x3448), (12553, 0x3474), (12851, 0x359f),
    (12962, 0x360f), (12973, 0x361b), (13738, 0x3919), (13823, 0x396f), (13919, 0x39d1),
    (13933, 0x39e0), (14080, 0x3a74), (14298, 0x3b4f), (14585, 0x3c6f), (14698, 0x3ce1),
    (15583, 0x4057), (15847, 0x4160), (16318, 0x4338), (16434, 0x43ad), (16438, 0x43b2),
    (16481, 0x43de), (16729, 0x44d7), (17102, 0x464d), (17122, 0x4662), (17315, 0x4724),
    (17320, 0x472a), (17402, 0x477d), (17418, 0x478e), (17859, 0x4948), (17909, 0x497b),
    (17911, 0x497e), (17915, 0x4984), (17916, 0x4987), (17936, 0x499c), (17939, 0x49a0),
    (17961, 0x49b8), (18664, 0x4c78), (18703, 0x4ca4), (18814, 0x4d1a), (18962, 0x4daf),
    (19043, 0x9fa6), (33469, 0xe76c), (33470, 0xe7c8), (33471, 0xe7e7), (33484, 0xe815),
    (33485, 0xe819), (33490, 0xe81f), (33497, 0xe827), (33501, 0xe82d), (33505, 0xe833),
    (33513, 0xe83c), (33520, 0xe844), (33536, 0xe856), (33550, 0xe865), (37845, 0xf92d),
    (37921, 0xf97a), (37948, 0xf996), (38029, 0xf9e8), (38038, 0xf9f2), (38064, 0xfa10),
    (38065, 0xfa12), (38066, 0xfa15), (38069, 0xfa19), (38075, 0xfa22), (38076, 0xfa25),
    (38078, 0xfa2a), (39108, 0xfe32), (39109, 0xfe45), (39113, 0xfe53), (39114, 0xfe58),
    (39115, 0xfe67), (39116, 0xfe6c), (39265, 0xff5f), (39394, 0xffe6) ]

/-- The character that four bytes name: the place that they say lies among the characters up to
U+FFFF, or is the number of one behind them. -/
def four18030? (a b c d : Nat) : Option Char :=
  if 0x81 ≤ a ∧ a ≤ 0xFE ∧ 0x81 ≤ c ∧ c ≤ 0xFE ∧ 0x30 ≤ d ∧ d ≤ 0x39 then
    let place := (((a - 0x81) * 10 + (b - 0x30)) * 126 + (c - 0x81)) * 10 + (d - 0x30)
    if place < 39420 then
      ((ranges18030.filter fun r => r.1 ≤ place).getLast?).map fun r =>
        Char.ofNat (r.2 + (place - r.1))
    else if 189000 ≤ place ∧ place - 189000 < 0x100000 then
      some (Char.ofNat (place - 189000 + 0x10000))
    else none
  else none

/-- GB 18030. -/
def gb18030 : Step
  | a :: b :: rest =>
    if 0x80 ≤ a.toNat ∧ 0x30 ≤ b.toNat ∧ b.toNat ≤ 0x39 then
      match rest with
      | c :: d :: rest =>
        (four18030? a.toNat b.toNat c.toNat d.toNat).map fun c => ([c], rest)
      | _ => none
    else Step.pair (fun a b => (char18030? a b).map ([·])) (a :: b :: rest)
  | bytes => Step.pair (fun _ _ => none) bytes

/-! ## The family of Big5 -/

/-- The place of a second byte among 157. -/
def trailBig5? (b : Nat) : Option Nat :=
  if 0x40 ≤ b ∧ b ≤ 0x7E then some (b - 0x40)
  else if 0xA1 ≤ b ∧ b ≤ 0xFE then some (b - 0xA1 + 63)
  else none

/-- Big5. -/
def big5 : Step :=
  Step.pair fun a b => (trailBig5? b).bind fun cell => (Grid.big5.char? a cell).map ([·])

/-- Code page 950. -/
def codePage950 : Step :=
  Step.pair fun a b =>
    (trailBig5? b).bind fun cell =>
      ((Grid.codePage950.char? a cell).or (Grid.big5.char? a cell)).map ([·])

/-- Whether the supplement for Hong Kong has the cell to itself. -/
def isSupplement (a cell : Nat) : Bool :=
  a == 0xC7 || a == 0xC8 || (a == 0xC6 && 63 ≤ cell)

/-- Big5 with the supplement for Hong Kong. -/
def hkscs : Step :=
  Step.pair fun a b =>
    (trailBig5? b).bind fun cell =>
      let own := if isSupplement a cell then none else Grid.big5.char? a cell
      (own.or (Grid.hkscs.char? a cell)).map fun c => c :: (Grid.hkscsMarks.char? a cell).toList

end Chinese

/-! ## HZ -/

namespace Hz

/-- Reads bytes, in a passage or outside. -/
def decode? (inRows : Bool) : List UInt8 → Option (List Char)
  | [] => some []
  | 0x7E :: b :: bytes =>
    match inRows, b with
    | false, 0x7E => (decode? false bytes).map ('~' :: ·)
    | false, 0x7B => decode? true bytes
    | false, 0x0A => decode? false bytes
    | true, 0x7D => decode? false bytes
    | _, _ => none
  | [a] => if inRows ∨ a = 0x7E ∨ 0x80 ≤ a then none else some [Char.ofNat a.toNat]
  | a :: b :: bytes =>
    if 0x80 ≤ a then none
    else if inRows then do
      let c ← Grid.gb2312.char? (a.toNat - 0x20) (b.toNat - 0x20)
      return c :: (← decode? true bytes)
    else (decode? false (b :: bytes)).map (Char.ofNat a.toNat :: ·)

end Hz

end Workshop.Text.Charset
