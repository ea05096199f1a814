import CloudMetrics.Text.Mark

/-!
# Direction of characters

How a character runs where texts that are read from the left and from the right stand in one line. The
table holds the characters of names; the signs that change the direction are no such characters.
-/
namespace CloudMetrics.Text

inductive Direction where
  | left | right | arabicLetter
  | europeanNumber | europeanSeparator | europeanTerminator | arabicNumber | commonSeparator
  | nonspacingMark | boundaryNeutral | otherNeutral
  /-- Blanks and separators of lines, paragraphs and cells. -/
  | other
deriving DecidableEq, Repr

/-- Characters that run neither from the left nor as the marks do. -/
def directionRanges : List (Nat × Nat × Direction) :=
  [(0x0,0x8,.boundaryNeutral),(0x9,0xD,.other),(0xE,0x1B,.boundaryNeutral),(0x1C,0x20,.other),
   (0x21,0x22,.otherNeutral),(0x23,0x25,.europeanTerminator),(0x26,0x2A,.otherNeutral),
   (0x2B,0x2B,.europeanSeparator),(0x2C,0x2C,.commonSeparator),(0x2D,0x2D,.europeanSeparator),
   (0x2E,0x2F,.commonSeparator),(0x30,0x39,.europeanNumber),(0x3A,0x3A,.commonSeparator),
   (0x3B,0x60,.otherNeutral),(0x7B,0x7E,.otherNeutral),(0x7F,0x7F,.boundaryNeutral),
   (0xA1,0xA1,.otherNeutral),(0xA2,0xA5,.europeanTerminator),(0xA6,0xAE,.otherNeutral),
   (0xB0,0xB1,.europeanTerminator),(0xB6,0xD7,.otherNeutral),(0xF7,0xF7,.otherNeutral),
   (0x2B9,0x2BA,.otherNeutral),(0x2C2,0x2CF,.otherNeutral),(0x2D2,0x2ED,.otherNeutral),
   (0x2EF,0x2FF,.otherNeutral),(0x375,0x375,.otherNeutral),(0x3F6,0x3F6,.otherNeutral),
   (0x58A,0x58E,.otherNeutral),(0x58F,0x58F,.europeanTerminator),(0x5BE,0x5BE,.right),
   (0x5C0,0x5C0,.right),(0x5C3,0x5C3,.right),(0x5C6,0x5C6,.right),(0x5D0,0x5F4,.right),
   (0x606,0x607,.otherNeutral),(0x608,0x608,.arabicLetter),(0x609,0x60A,.europeanTerminator),
   (0x60B,0x60B,.arabicLetter),(0x60C,0x60C,.commonSeparator),(0x60D,0x60D,.arabicLetter),
   (0x60E,0x60F,.otherNeutral),(0x61B,0x64A,.arabicLetter),(0x660,0x669,.arabicNumber),
   (0x66A,0x66A,.europeanTerminator),(0x66B,0x66C,.arabicNumber),(0x66D,0x66F,.arabicLetter),
   (0x671,0x6D5,.arabicLetter),(0x6DE,0x6DE,.otherNeutral),(0x6E5,0x6E6,.arabicLetter),
   (0x6E9,0x6E9,.otherNeutral),(0x6EE,0x6EF,.arabicLetter),(0x6F0,0x6F9,.europeanNumber),
   (0x6FA,0x710,.arabicLetter),(0x712,0x72F,.arabicLetter),(0x74D,0x7A5,.arabicLetter),
   (0x7B1,0x7B1,.arabicLetter),(0x7C0,0x7EA,.right),(0x7F4,0x7F5,.right),
   (0x7F6,0x7F9,.otherNeutral),(0x7FA,0x7FA,.right),(0x7FE,0x815,.right),(0x81A,0x81A,.right),
   (0x824,0x824,.right),(0x828,0x828,.right),(0x830,0x858,.right),(0x85E,0x85E,.right),
   (0x860,0x88F,.arabicLetter),(0x8A0,0x8C9,.arabicLetter),(0x9F2,0x9F3,.europeanTerminator),
   (0x9FB,0x9FB,.europeanTerminator),(0xAF1,0xAF1,.europeanTerminator),(0xBF3,0xBF8,.otherNeutral),
   (0xBF9,0xBF9,.europeanTerminator),(0xBFA,0xBFA,.otherNeutral),(0xC78,0xC7E,.otherNeutral),
   (0xCBF,0xCBF,.left),(0xCC6,0xCC6,.left),(0xE3F,0xE3F,.europeanTerminator),
   (0xF3A,0xF3D,.otherNeutral),(0x1390,0x1399,.otherNeutral),(0x1400,0x1400,.otherNeutral),
   (0x169B,0x169C,.otherNeutral),(0x17DB,0x17DB,.europeanTerminator),(0x17F0,0x180A,.otherNeutral),
   (0x1940,0x1945,.otherNeutral),(0x19DE,0x19FF,.otherNeutral),(0x200C,0x200D,.boundaryNeutral),
   (0x2010,0x2027,.otherNeutral),(0x2030,0x2032,.europeanTerminator),(0x2035,0x2043,.otherNeutral),
   (0x2044,0x2044,.commonSeparator),(0x2045,0x205E,.otherNeutral),
   (0x20A0,0x20C1,.europeanTerminator),(0x2104,0x2129,.otherNeutral),
   (0x212E,0x212E,.europeanTerminator),(0x213A,0x214D,.otherNeutral),(0x218A,0x2211,.otherNeutral),
   (0x2212,0x2212,.europeanSeparator),(0x2213,0x2213,.europeanTerminator),
   (0x2214,0x2335,.otherNeutral),(0x237B,0x2394,.otherNeutral),(0x2396,0x26AB,.otherNeutral),
   (0x26AD,0x27FF,.otherNeutral),(0x2900,0x2BFF,.otherNeutral),(0x2CE5,0x2CEA,.otherNeutral),
   (0x2CF9,0x2CFF,.otherNeutral),(0x2E00,0x3004,.otherNeutral),(0x3008,0x3020,.otherNeutral),
   (0x3030,0x3030,.otherNeutral),(0x3037,0x3037,.otherNeutral),(0x303D,0x303F,.otherNeutral),
   (0x30A0,0x30A0,.otherNeutral),(0x30FB,0x30FB,.otherNeutral),(0x31C0,0x31E5,.otherNeutral),
   (0x4DC0,0x4DFF,.otherNeutral),(0xA490,0xA4C6,.otherNeutral),(0xA60D,0xA60F,.otherNeutral),
   (0xA673,0xA673,.otherNeutral),(0xA67E,0xA67F,.otherNeutral),(0xA700,0xA721,.otherNeutral),
   (0xA788,0xA788,.otherNeutral),(0xA828,0xA82B,.otherNeutral),(0xA838,0xA839,.europeanTerminator),
   (0xA874,0xA877,.otherNeutral),(0xAB6A,0xAB6B,.otherNeutral),(0xFBB2,0xFBC2,.arabicLetter),
   (0xFBC3,0xFDFF,.otherNeutral),(0xFE45,0xFE46,.otherNeutral),(0xFE73,0xFE73,.arabicLetter),
   (0x10101,0x10101,.otherNeutral),(0x10140,0x1018C,.otherNeutral),(0x10190,0x101A0,.otherNeutral),
   (0x102E1,0x102FB,.europeanNumber),(0x10800,0x1091B,.right),(0x1091F,0x1091F,.otherNeutral),
   (0x10920,0x10A00,.right),(0x10A10,0x10A35,.right),(0x10A40,0x10AE4,.right),
   (0x10AEB,0x10B35,.right),(0x10B39,0x10B3F,.otherNeutral),(0x10B40,0x10CFF,.right),
   (0x10D00,0x10D23,.arabicLetter),(0x10D30,0x10D39,.arabicNumber),(0x10D40,0x10D4F,.right),
   (0x10D6E,0x10D6E,.otherNeutral),(0x10D6F,0x10D8F,.right),(0x10E60,0x10E7E,.arabicNumber),
   (0x10E80,0x10EA9,.right),(0x10EAD,0x10EB1,.right),(0x10EC2,0x10EC7,.arabicLetter),
   (0x10ED0,0x10ED8,.otherNeutral),(0x10F00,0x10F27,.right),(0x10F30,0x10F45,.arabicLetter),
   (0x10F51,0x10F59,.arabicLetter),(0x10F70,0x10F81,.right),(0x10F86,0x10FF6,.right),
   (0x11052,0x11065,.otherNeutral),(0x11660,0x1166C,.otherNeutral),(0x11A07,0x11A08,.left),
   (0x11C3F,0x11C3F,.left),(0x11FD5,0x11FDC,.otherNeutral),(0x11FDD,0x11FE0,.europeanTerminator),
   (0x11FE1,0x11FF1,.otherNeutral),(0x16FE2,0x16FE2,.otherNeutral),(0x1CC00,0x1CEF0,.otherNeutral),
   (0x1D1E9,0x1D241,.otherNeutral),(0x1D245,0x1D245,.otherNeutral),(0x1D300,0x1D356,.otherNeutral),
   (0x1E2FF,0x1E2FF,.europeanTerminator),(0x1E800,0x1E8CF,.right),(0x1E922,0x1E943,.right),
   (0x1E94B,0x1E95F,.right),(0x1EC71,0x1ED3D,.arabicLetter),(0x1EEF0,0x1F12F,.otherNeutral),
   (0x1F16D,0x1F16F,.otherNeutral),(0x1F1AD,0x1F1AD,.otherNeutral),(0x1F260,0x1FBFA,.otherNeutral)]

def direction (c : Char) : Direction :=
  (rangeOf? directionRanges c.toNat).getD (if isNonspacingMark c then .nonspacingMark else .left)

/-- Letters and numbers of the scripts that are read from the right. -/
def Direction.isFromRight (d : Direction) : Bool := d = .right || d = .arabicLetter || d = .arabicNumber

end CloudMetrics.Text
