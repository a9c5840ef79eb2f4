import SocialMigration.Text.Alphanumeric
import SocialMigration.Text.Mark

/-!
# Letters of host names

The small letters, digits and marks of which the labels of internationalised host names are made,
and the properties on which the rules for labels rest: scripts, the way letters join, and the
direction in which they are written. The tables are read for code points of labels only, so their
intervals may run over others.
-/

namespace SocialMigration

namespace CodePoint

/-- Letters and numbers that stand for others, and so are not stable enough for a host name. -/
def unstableRanges : List (Nat × Nat) :=
  [(0xAA, 0xBE), (0x133, 0x133), (0x140, 0x140), (0x149, 0x149), (0x17F, 0x17F), (0x1C6, 0x1CC),
   (0x1F3, 0x1F3), (0x2B0, 0x2B8), (0x2E0, 0x2E4), (0x374, 0x374), (0x37A, 0x37A), (0x3D0, 0x3D6),
   (0x3F0, 0x3F2), (0x3F5, 0x3F5), (0x587, 0x587), (0x640, 0x640), (0x675, 0x678), (0x7FA, 0x7FA),
   (0x958, 0x95F), (0x9DC, 0x9DF), (0x9F4, 0x9F9), (0xA33, 0xA33), (0xA36, 0xA36), (0xA59, 0xA5B),
   (0xA5E, 0xA5E), (0xB5C, 0xB5D), (0xB72, 0xB77), (0xBF0, 0xBF2), (0xC78, 0xC7E), (0xD58, 0xD5E),
   (0xD70, 0xD78), (0xE33, 0xE33), (0xEB3, 0xEB3), (0xEDC, 0xEDD), (0xF2A, 0xF33), (0xF43, 0xF43),
   (0xF4D, 0xF4D), (0xF52, 0xF52), (0xF57, 0xF57), (0xF5C, 0xF5C), (0xF69, 0xF69),
   (0x10FC, 0x10FC), (0x1100, 0x11FF), (0x1369, 0x137C), (0x13F8, 0x13FD), (0x16EE, 0x16F0),
   (0x17F0, 0x17F9), (0x19DA, 0x19DA), (0x1C80, 0x1C88), (0x1D2C, 0x1D2E), (0x1D30, 0x1D3A),
   (0x1D3C, 0x1D4D), (0x1D4F, 0x1D6A), (0x1D78, 0x1D78), (0x1D9B, 0x1DBF), (0x1E9A, 0x1E9B),
   (0x1F71, 0x1F71), (0x1F73, 0x1F73), (0x1F75, 0x1F75), (0x1F77, 0x1F77), (0x1F79, 0x1F79),
   (0x1F7B, 0x1F7B), (0x1F7D, 0x1FA7), (0x1FB2, 0x1FB4), (0x1FB7, 0x1FC4), (0x1FC7, 0x1FC7),
   (0x1FD3, 0x1FD3), (0x1FE3, 0x1FE3), (0x1FF2, 0x1FF4), (0x1FF7, 0x2149), (0x2150, 0x2182),
   (0x2185, 0x2793), (0x2C7C, 0x2C7D), (0x2CFD, 0x2CFD), (0x2D6F, 0x2D6F), (0x3021, 0x303B),
   (0x309F, 0x309F), (0x30FF, 0x30FF), (0x3131, 0x3195), (0x3220, 0x32BF), (0xA69C, 0xA69D),
   (0xA6E6, 0xA6EF), (0xA770, 0xA770), (0xA7F2, 0xA7F4), (0xA7F8, 0xA7F9), (0xA830, 0xA835),
   (0xA960, 0xA97C), (0xAB5C, 0xAB5F), (0xAB69, 0xABBF), (0xD7B0, 0xFA0D), (0xFA10, 0xFA10),
   (0xFA12, 0xFA12), (0xFA15, 0xFA1E), (0xFA20, 0xFA20), (0xFA22, 0xFA22), (0xFA25, 0xFA26),
   (0xFA2A, 0xFE72), (0xFE74, 0xFFDC), (0x10107, 0x1018B), (0x102E1, 0x102FB), (0x10320, 0x10323),
   (0x10341, 0x10341), (0x1034A, 0x1034A), (0x103D1, 0x103D5), (0x10781, 0x107BA),
   (0x10858, 0x1085F), (0x10879, 0x1087F), (0x108A7, 0x108AF), (0x108FB, 0x108FF),
   (0x10916, 0x1091B), (0x109BC, 0x109BD), (0x109C0, 0x109FF), (0x10A40, 0x10A48),
   (0x10A7D, 0x10A7E), (0x10A9D, 0x10A9F), (0x10AEB, 0x10AEF), (0x10B58, 0x10B5F),
   (0x10B78, 0x10B7F), (0x10BA9, 0x10BAF), (0x10CFA, 0x10CFF), (0x10E60, 0x10E7E),
   (0x10F1D, 0x10F26), (0x10F51, 0x10F54), (0x10FC5, 0x10FCB), (0x11052, 0x11065),
   (0x111E1, 0x111F4), (0x1173A, 0x1173B), (0x118EA, 0x118F2), (0x11C5A, 0x11C6C),
   (0x11FC0, 0x11FD4), (0x12400, 0x1246E), (0x16B5B, 0x16B61), (0x16E80, 0x16E96),
   (0x1D2E0, 0x1D7FF), (0x1E8C7, 0x1E8CF), (0x1EC71, 0x1FBF9), (0x2F800, 0x2FA1D)]

/-- Signs that are no letters but part of words all the same. -/
def wordSigns : List CodePoint := [0x2D, 0x6FD, 0x6FE, 0xF0B]

/-- Whether a code point may stand anywhere in a label. -/
def isLabelLetter (c : CodePoint) : Bool :=
  c.isMark || wordSigns.contains c || (c.isAlphanumeric && !c.within unstableRanges)

/-- Greek letters. -/
def greekRanges : List (Nat × Nat) :=
  [(0x371, 0x3E1), (0x3F3, 0x3FC), (0x1D26, 0x1D2A), (0x1F00, 0x1FF6), (0xAB65, 0xAB65)]

/-- Hebrew letters and points. -/
def hebrewRanges : List (Nat × Nat) :=
  [(0x591, 0x5F4), (0xFB1E, 0xFB1E)]

/-- Hiragana, Katakana and Han characters. -/
def japaneseRanges : List (Nat × Nat) :=
  [(0x3005, 0x3005), (0x3007, 0x3007), (0x3041, 0x3096), (0x309D, 0x30FA), (0x30FD, 0x30FE),
   (0x31F0, 0x9FFF), (0xFA0E, 0xFA29), (0x16FE3, 0x16FE3), (0x16FF0, 0x16FF1), (0x1AFF0, 0x1B167),
   (0x20000, 0x3134A)]

/-- Letters that join on both sides or to the letter after them. -/
def joinsNextRanges : List (Nat × Nat) :=
  [(0x620, 0x620), (0x626, 0x626), (0x628, 0x628), (0x62A, 0x62E), (0x633, 0x647), (0x649, 0x64A),
   (0x66E, 0x66F), (0x679, 0x687), (0x69A, 0x6BF), (0x6C1, 0x6C2), (0x6CC, 0x6CC), (0x6CE, 0x6CE),
   (0x6D0, 0x6D1), (0x6FA, 0x6FC), (0x6FF, 0x6FF), (0x712, 0x714), (0x71A, 0x71D), (0x71F, 0x727),
   (0x729, 0x729), (0x72B, 0x72B), (0x72D, 0x72E), (0x74E, 0x758), (0x75C, 0x76A), (0x76D, 0x770),
   (0x772, 0x772), (0x775, 0x777), (0x77A, 0x77F), (0x7CA, 0x7EA), (0x841, 0x845), (0x848, 0x848),
   (0x84A, 0x853), (0x855, 0x855), (0x860, 0x860), (0x862, 0x865), (0x868, 0x868), (0x886, 0x886),
   (0x889, 0x88D), (0x8A0, 0x8A9), (0x8AF, 0x8B0), (0x8B3, 0x8B8), (0x8BA, 0x8C8),
   (0x1820, 0x1878), (0x1887, 0x18A8), (0x18AA, 0x18AA), (0xA840, 0xA871), (0xA872, 0xA872),
   (0x10AC0, 0x10AC4), (0x10ACD, 0x10ACD), (0x10AD3, 0x10AD6), (0x10AD7, 0x10AD7),
   (0x10AD8, 0x10ADC), (0x10ADE, 0x10AE0), (0x10B80, 0x10B80), (0x10B82, 0x10B82),
   (0x10B86, 0x10B88), (0x10B8A, 0x10B8B), (0x10B8D, 0x10B8D), (0x10B90, 0x10B90),
   (0x10D00, 0x10D00), (0x10D01, 0x10D21), (0x10D23, 0x10D23), (0x10F30, 0x10F32),
   (0x10F34, 0x10F44), (0x10F70, 0x10F73), (0x10F76, 0x10F81), (0x10FB0, 0x10FB0),
   (0x10FB2, 0x10FB3), (0x10FB8, 0x10FB8), (0x10FBB, 0x10FBC), (0x10FBE, 0x10FBF),
   (0x10FC1, 0x10FC1), (0x10FC4, 0x10FC4), (0x1E922, 0x1E943)]

/-- Letters that join to the letter before them only. -/
def joinsPreviousRanges : List (Nat × Nat) :=
  [(0x622, 0x625), (0x627, 0x627), (0x629, 0x629), (0x62F, 0x632), (0x648, 0x648), (0x671, 0x673),
   (0x688, 0x699), (0x6C0, 0x6C0), (0x6C3, 0x6CB), (0x6CD, 0x6CD), (0x6CF, 0x6CF), (0x6D2, 0x6D5),
   (0x6EE, 0x6EF), (0x710, 0x710), (0x715, 0x719), (0x71E, 0x71E), (0x728, 0x728), (0x72A, 0x72A),
   (0x72C, 0x72C), (0x72F, 0x72F), (0x74D, 0x74D), (0x759, 0x75B), (0x76B, 0x76C), (0x771, 0x771),
   (0x773, 0x774), (0x778, 0x779), (0x840, 0x840), (0x846, 0x847), (0x849, 0x849), (0x854, 0x854),
   (0x856, 0x858), (0x867, 0x867), (0x869, 0x882), (0x88E, 0x88E), (0x8AA, 0x8AC), (0x8AE, 0x8AE),
   (0x8B1, 0x8B2), (0x8B9, 0x8B9), (0x10AC5, 0x10AC5), (0x10AC7, 0x10ACA), (0x10ACE, 0x10AD2),
   (0x10ADD, 0x10ADD), (0x10AE1, 0x10AE1), (0x10AE4, 0x10AE4), (0x10B81, 0x10B81),
   (0x10B83, 0x10B85), (0x10B89, 0x10B89), (0x10B8C, 0x10B8C), (0x10B8E, 0x10B8F),
   (0x10B91, 0x10B91), (0x10D22, 0x10D22), (0x10F33, 0x10F33), (0x10F74, 0x10F75),
   (0x10FB4, 0x10FB6), (0x10FB9, 0x10FBA), (0x10FBD, 0x10FBD), (0x10FC2, 0x10FC3)]

/-- Letters that join to the letter after them only. -/
def joinsNextOnly : List CodePoint :=
  [0xA872, 0x10ACD, 0x10AD7, 0x10D00]

/-- Whether a letter joins to the one after it. -/
def joinsNext (c : CodePoint) : Bool :=
  c.within joinsNextRanges

/-- Whether a letter joins to the one before it. -/
def joinsPrevious (c : CodePoint) : Bool :=
  c.within joinsPreviousRanges || (c.joinsNext && !joinsNextOnly.contains c)

/-- Letters that are written from right to left. -/
def rightToLeftRanges : List (Nat × Nat) :=
  [(0x5D0, 0x5F4), (0x620, 0x64A), (0x66E, 0x66F), (0x671, 0x6D5), (0x6E5, 0x6E6), (0x6EE, 0x6EF),
   (0x6FA, 0x710), (0x712, 0x72F), (0x74D, 0x7A5), (0x7B1, 0x7EA), (0x7F4, 0x7F5), (0x800, 0x815),
   (0x81A, 0x81A), (0x824, 0x824), (0x828, 0x828), (0x840, 0x858), (0x860, 0x88E), (0x8A0, 0x8C9),
   (0xFE73, 0xFE73), (0x10800, 0x10A00), (0x10A10, 0x10A35), (0x10A60, 0x10AE4),
   (0x10B00, 0x10D23), (0x10E80, 0x10EA9), (0x10EB0, 0x10F45), (0x10F70, 0x10F81),
   (0x10FB0, 0x10FF6), (0x1E800, 0x1E8C4), (0x1E922, 0x1E943), (0x1E94B, 0x1E959)]

/-- Letters without a direction. -/
def undirectedRanges : List (Nat × Nat) :=
  [(0xB7, 0xB7), (0x2B9, 0x2BA), (0x2C6, 0x2CF), (0x2EC, 0x2EC), (0x375, 0x375), (0x2E2F, 0x2E2F),
   (0x30FB, 0x30FB), (0xA67F, 0xA67F), (0xA717, 0xA71F), (0xA788, 0xA788)]

/-- Arabic digits, which keep their order in text from right to left. -/
def arabicDigitRanges : List (Nat × Nat) := [(0x660, 0x669), (0x10D30, 0x10D39)]

/-- Other digits that keep their order in text from right to left. -/
def europeanDigitRanges : List (Nat × Nat) := [(0x30, 0x39), (0x6F0, 0x6F9)]

/-- The direction in which a code point of a label is written. -/
inductive Direction where
  | leftToRight
  | rightToLeft
  | arabicNumber
  | europeanNumber
  | attached
  | undirected
  deriving DecidableEq, Repr

/-- The direction of a code point of a label. -/
def direction (c : CodePoint) : Direction :=
  if c.isMark then .attached
  else if c.within europeanDigitRanges then .europeanNumber
  else if c.within arabicDigitRanges then .arabicNumber
  else if c.within rightToLeftRanges then .rightToLeft
  else if c == 0x2D || c == 0x200C || c == 0x200D || c.within undirectedRanges then .undirected
  else .leftToRight

end CodePoint

end SocialMigration
