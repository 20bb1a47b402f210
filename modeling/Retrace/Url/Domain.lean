import Retrace.Unicode.CaseFold
import Retrace.Unicode.Category

/-!
# Characters of domains

Domains are compared in one form of their characters. Before a label is written in ASCII some of its
characters are left out, the wide forms of ASCII characters become these characters, and letters
become small ones (`mapped`).

Beyond ASCII a label has characters only for which nothing else has to be done (`isPlain`). A
character that stands for several ones, that may be composed with the one before it, or that is
written from right to left is refused, as are marks that may have to be put in another order.
-/

namespace Retrace.Url.Domain

/-- The characters that domains leave out, as ranges. -/
def ignored : Unicode.Ranges where
  changes := #[
    0xAD, 0xAE, 0x34F, 0x350, 0x115F, 0x1161, 0x17B4, 0x17B6, 0x180B, 0x1810, 0x200B, 0x200C,
    0x2060, 0x2065, 0x206A, 0x2070, 0x3164, 0x3165, 0xFE00, 0xFE10, 0xFEFF, 0xFF00, 0xFFA0, 0xFFA1,
    0x1BCA0, 0x1BCA4, 0x1D173, 0x1D17B, 0xE0100, 0xE01F0]

/-- The characters beyond ASCII that labels may have, and their capital forms, as ranges.
Points without a character may lie within a range. -/
def usable : Unicode.Ranges where
  changes := #[
    0xA1, 0xA8, 0xA9, 0xAA, 0xAB, 0xAD, 0xAE, 0xAF, 0xB0, 0xB2, 0xB6, 0xB8, 0xBB, 0xBC, 0xBF, 0x130,
    0x131, 0x132, 0x134, 0x13F, 0x141, 0x149, 0x14A, 0x17F, 0x180, 0x1C4, 0x1CD, 0x1F1, 0x1F4,
    0x2B0, 0x2B9, 0x2D8, 0x2DE, 0x2E0, 0x2E5, 0x300, 0x305, 0x306, 0x30D, 0x30F, 0x310, 0x311,
    0x312, 0x313, 0x315, 0x31B, 0x31C, 0x323, 0x329, 0x32D, 0x32F, 0x330, 0x332, 0x338, 0x339,
    0x340, 0x346, 0x34F, 0x350, 0x374, 0x375, 0x378, 0x37B, 0x37E, 0x37F, 0x380, 0x386, 0x387,
    0x388, 0x3D0, 0x3D7, 0x3F0, 0x3F3, 0x3F5, 0x3F6, 0x3F9, 0x3FA, 0x587, 0x588, 0x5BE, 0x5BF,
    0x5C0, 0x5C1, 0x5C3, 0x5C4, 0x5C6, 0x5C7, 0x5C8, 0x606, 0x608, 0x609, 0x60B, 0x60C, 0x60D,
    0x60E, 0x61B, 0x64B, 0x653, 0x656, 0x660, 0x66A, 0x66B, 0x670, 0x671, 0x6D6, 0x6DD, 0x6DE,
    0x6E5, 0x6E7, 0x6EE, 0x6F0, 0x6FA, 0x711, 0x712, 0x730, 0x74B, 0x7A6, 0x7B1, 0x7EB, 0x7F4,
    0x7F6, 0x7FA, 0x7FD, 0x7FE, 0x816, 0x81A, 0x81B, 0x824, 0x825, 0x828, 0x829, 0x82E, 0x859,
    0x85C, 0x898, 0x8A0, 0x8CA, 0x8E2, 0x8E3, 0x93C, 0x93D, 0x958, 0x960, 0x9BE, 0x9BF, 0x9CF,
    0x9E0, 0xA33, 0xA35, 0xA36, 0xA38, 0xA52, 0xA5C, 0xA5D, 0xA66, 0xB3E, 0xB3F, 0xB56, 0xB5F,
    0xBBA, 0xBBF, 0xBD1, 0xBE6, 0xC56, 0xC58, 0xC5B, 0xC5D, 0xCC2, 0xCC3, 0xCCE, 0xCDD, 0xD3E,
    0xD3F, 0xD57, 0xD58, 0xDC7, 0xDD0, 0xDDF, 0xDE6, 0xE33, 0xE34, 0xEB3, 0xEB4, 0xEDA, 0xEDE,
    0xF0C, 0xF0D, 0xF43, 0xF44, 0xF4D, 0xF4E, 0xF52, 0xF53, 0xF57, 0xF58, 0xF5C, 0xF5D, 0xF69,
    0xF6A, 0xF73, 0xF74, 0xF75, 0xF7A, 0xF81, 0xF82, 0xF93, 0xF94, 0xF9D, 0xF9E, 0xFA2, 0xFA3,
    0xFA7, 0xFA8, 0xFAC, 0xFAD, 0xFB9, 0xFBA, 0x102E, 0x102F, 0x10FC, 0x10FD, 0x115F, 0x1176,
    0x11A8, 0x11C3, 0x139A, 0x1400, 0x1680, 0x1681, 0x17B4, 0x17B6, 0x180B, 0x1810, 0x1ACF, 0x1B00,
    0x1B35, 0x1B36, 0x1B4D, 0x1B50, 0x1B7F, 0x1B80, 0x1C80, 0x1C90, 0x1D2C, 0x1D2F, 0x1D30, 0x1D3B,
    0x1D3C, 0x1D4E, 0x1D4F, 0x1D6B, 0x1D78, 0x1D79, 0x1D9B, 0x1DC0, 0x1E9A, 0x1E9C, 0x1F71, 0x1F72,
    0x1F73, 0x1F74, 0x1F75, 0x1F76, 0x1F77, 0x1F78, 0x1F79, 0x1F7A, 0x1F7B, 0x1F7C, 0x1F7D, 0x1FB0,
    0x1FB2, 0x1FB6, 0x1FB7, 0x1FB8, 0x1FBB, 0x1FC6, 0x1FC7, 0x1FC8, 0x1FC9, 0x1FCA, 0x1FCB, 0x1FD0,
    0x1FD3, 0x1FD6, 0x1FDB, 0x1FE0, 0x1FE3, 0x1FE4, 0x1FEB, 0x1FEC, 0x1FED, 0x1FF6, 0x1FF7, 0x1FF8,
    0x1FF9, 0x1FFA, 0x1FFB, 0x2010, 0x2011, 0x2012, 0x2017, 0x2018, 0x2024, 0x2027, 0x2028, 0x2030,
    0x2033, 0x2035, 0x2036, 0x2038, 0x203C, 0x203D, 0x203E, 0x203F, 0x2047, 0x204A, 0x2057, 0x2058,
    0x205F, 0x20A0, 0x20A8, 0x20A9, 0x20C1, 0x20D0, 0x20F1, 0x2104, 0x2105, 0x2108, 0x2109, 0x2114,
    0x2115, 0x2117, 0x2119, 0x211E, 0x2120, 0x2123, 0x2124, 0x2125, 0x2128, 0x2129, 0x212C, 0x212E,
    0x212F, 0x2132, 0x2133, 0x213A, 0x213B, 0x2141, 0x2145, 0x214A, 0x2150, 0x2180, 0x2189, 0x218A,
    0x222C, 0x222E, 0x222F, 0x2231, 0x2329, 0x232B, 0x2427, 0x2440, 0x244B, 0x24EB, 0x2A0C, 0x2A0D,
    0x2A74, 0x2A77, 0x2ADC, 0x2ADD, 0x2B96, 0x2B97, 0x2C7C, 0x2C7E, 0x2D68, 0x2D70, 0x2E9F, 0x2EA0,
    0x2EF3, 0x3001, 0x3002, 0x3003, 0x3036, 0x3037, 0x3038, 0x303B, 0x3097, 0x309D, 0x309F, 0x30A0,
    0x30FF, 0x3105, 0x3130, 0x3190, 0x3192, 0x31A0, 0x31E4, 0x31F0, 0x3200, 0x3248, 0x3250, 0x327F,
    0x3280, 0x3400, 0xA69C, 0xA69E, 0xA770, 0xA771, 0xA7CB, 0xA7D0, 0xA7D2, 0xA7D3, 0xA7D4, 0xA7D5,
    0xA7DA, 0xA7F5, 0xA7F8, 0xA7FA, 0xAB5C, 0xAB60, 0xAB69, 0xAB6A, 0xAB6C, 0xABC0, 0xD7FC, 0xFA0E,
    0xFA10, 0xFA11, 0xFA12, 0xFA13, 0xFA15, 0xFA1F, 0xFA20, 0xFA21, 0xFA22, 0xFA23, 0xFA25, 0xFA27,
    0xFA2A, 0xFB1E, 0xFB1F, 0xFD3E, 0xFD50, 0xFDCF, 0xFDD0, 0xFDFD, 0xFE00, 0xFE20, 0xFE30, 0xFE45,
    0xFE47, 0x10000, 0x105BD, 0x10600, 0x10781, 0x1091F, 0x10920, 0x10A01, 0x10A10, 0x10A38,
    0x10A40, 0x10AE5, 0x10AE7, 0x10B39, 0x10B40, 0x10D24, 0x10D28, 0x10EAB, 0x10EAD, 0x10EFD,
    0x10F00, 0x10F46, 0x10F51, 0x10F82, 0x10F86, 0x11000, 0x110BA, 0x110BB, 0x110BD, 0x110BE,
    0x110C3, 0x110D0, 0x11127, 0x11128, 0x1133E, 0x1133F, 0x11351, 0x1135D, 0x11375, 0x11400,
    0x114B0, 0x114B1, 0x114BA, 0x114BB, 0x114BD, 0x114BE, 0x115AF, 0x115B0, 0x116CA, 0x11700,
    0x11930, 0x11931, 0x11B0A, 0x11C00, 0x11DAA, 0x11EE0, 0x11F5A, 0x11FB0, 0x13430, 0x13440,
    0x13456, 0x14400, 0x14647, 0x16800, 0x16B90, 0x16E40, 0x16E9B, 0x16F00, 0x16FF2, 0x17000,
    0x187F8, 0x18800, 0x18CD6, 0x18D00, 0x18D09, 0x1AFF0, 0x1BCA0, 0x1CF00, 0x1D15E, 0x1D165,
    0x1D173, 0x1D17B, 0x1D1BB, 0x1D1C1, 0x1D379, 0x1D800, 0x1E02B, 0x1E08F, 0x1E4FA, 0x1E7E0,
    0x1E7FF, 0x1E8D0, 0x1E8D7, 0x1E944, 0x1E94B, 0x1EEF0, 0x1F0F6, 0x1F10B, 0x1F110, 0x1F12F,
    0x1F130, 0x1F150, 0x1F16A, 0x1F16D, 0x1F190, 0x1F191, 0x1F200, 0x1F260, 0x1F6D8, 0x1F6DC,
    0x1F777, 0x1F77B, 0x1F8B2, 0x1F900, 0x1FA54, 0x1FA60, 0x1FA89, 0x1FA90, 0x1FABE, 0x1FABF,
    0x1FAC6, 0x1FACE, 0x1FADC, 0x1FAE0, 0x1FAE9, 0x1FAF0, 0x1FBCB, 0x20000, 0x2B73A, 0x2B740,
    0x2CEA2, 0x2CEB0, 0x2EBE1, 0x30000, 0x323B0]

/-- The marks that have a place among the marks of a character, as ranges within `usable`. -/
def ordered : Unicode.Ranges where
  changes := #[
    0x305, 0x370, 0x483, 0x488, 0x591, 0x5C8, 0x610, 0x660, 0x670, 0x6DD, 0x6DF, 0x6E9, 0x6EA,
    0x6EE, 0x711, 0x74B, 0x7EB, 0x7F4, 0x7FD, 0x900, 0x94D, 0x94E, 0x951, 0x955, 0x9BC, 0x9BD,
    0x9CD, 0x9CE, 0x9FE, 0x9FF, 0xA3C, 0xA3D, 0xA4D, 0xA4E, 0xABC, 0xABD, 0xACD, 0xACE, 0xB3C,
    0xB3D, 0xB4D, 0xB4E, 0xBCD, 0xBCE, 0xC3C, 0xC3D, 0xC4D, 0xC56, 0xCBC, 0xCBD, 0xCCD, 0xCCE,
    0xD3B, 0xD3D, 0xD4D, 0xD4E, 0xE38, 0xE3B, 0xE48, 0xE4C, 0xEB8, 0xEBB, 0xEC8, 0xECC, 0xF18,
    0xF1A, 0xF35, 0xF36, 0xF37, 0xF38, 0xF39, 0xF3A, 0xF71, 0xF7E, 0xF80, 0xF85, 0xF86, 0xF88,
    0xFC6, 0xFC7, 0x1037, 0x1038, 0x1039, 0x103B, 0x108D, 0x108E, 0x135D, 0x1360, 0x1714, 0x1716,
    0x1734, 0x1735, 0x17D2, 0x17D3, 0x17DD, 0x17DE, 0x18A9, 0x18AA, 0x1939, 0x193C, 0x1A17, 0x1A19,
    0x1A60, 0x1A61, 0x1A75, 0x1A80, 0x1AB0, 0x1ABE, 0x1ABF, 0x1ACF, 0x1B34, 0x1B35, 0x1B44, 0x1B45,
    0x1B6B, 0x1B74, 0x1BAA, 0x1BAC, 0x1BE6, 0x1BE7, 0x1BF2, 0x1BF4, 0x1C37, 0x1C38, 0x1CD0, 0x1CD3,
    0x1CD4, 0x1CE1, 0x1CE2, 0x1CE9, 0x1CED, 0x1CEE, 0x1CF4, 0x1CF5, 0x1CF8, 0x1CFA, 0x1DC0, 0x1E00,
    0x20D0, 0x20DD, 0x20E1, 0x20E2, 0x20E5, 0x20F1, 0x2CEF, 0x2CF2, 0x2D7F, 0x2D80, 0x2DE0, 0x2E00,
    0x302A, 0x3030, 0xA66F, 0xA670, 0xA674, 0xA67E, 0xA69E, 0xA6A0, 0xA6F0, 0xA6F2, 0xA806, 0xA807,
    0xA82C, 0xA82D, 0xA8C4, 0xA8C5, 0xA8E0, 0xA8F2, 0xA92B, 0xA92E, 0xA953, 0xA954, 0xA9B3, 0xA9B4,
    0xA9C0, 0xA9C1, 0xAAB0, 0xAAB1, 0xAAB2, 0xAAB5, 0xAAB7, 0xAAB9, 0xAABE, 0xAAC0, 0xAAC1, 0xAAC2,
    0xAAF6, 0xAAF7, 0xABED, 0xABEE, 0xFB1E, 0xFB1F, 0xFE20, 0xFE30, 0x101FD, 0x101FE, 0x102E0,
    0x102E1, 0x10376, 0x1037B, 0x10A0D, 0x10A0E, 0x10A0F, 0x10AE7, 0x10D24, 0x10F86, 0x11046,
    0x11047, 0x11070, 0x11071, 0x1107F, 0x11080, 0x110B9, 0x110BA, 0x11100, 0x11103, 0x11133,
    0x11135, 0x11173, 0x11174, 0x111C0, 0x111C1, 0x111CA, 0x111CB, 0x11235, 0x11237, 0x112E9,
    0x112EB, 0x1133B, 0x1133D, 0x1134D, 0x1134E, 0x11366, 0x11375, 0x11442, 0x11443, 0x11446,
    0x11447, 0x1145E, 0x1145F, 0x114C2, 0x114C4, 0x115BF, 0x115C1, 0x1163F, 0x11640, 0x116B6,
    0x116B8, 0x1172B, 0x1172C, 0x11839, 0x1183B, 0x1193D, 0x1193F, 0x11943, 0x11944, 0x119E0,
    0x119E1, 0x11A34, 0x11A35, 0x11A47, 0x11A48, 0x11A99, 0x11A9A, 0x11C3F, 0x11C40, 0x11D42,
    0x11D43, 0x11D44, 0x11D46, 0x11D97, 0x11D98, 0x11F41, 0x11F43, 0x16AF0, 0x16AF5, 0x16B30,
    0x16B37, 0x16FF0, 0x16FF2, 0x1BC9E, 0x1BC9F, 0x1D165, 0x1D16A, 0x1D16D, 0x1D183, 0x1D185,
    0x1D18C, 0x1D1AA, 0x1D1AE, 0x1D242, 0x1D245, 0x1E000, 0x1E090, 0x1E130, 0x1E137, 0x1E2AE,
    0x1E2AF, 0x1E2EC, 0x1E2F0, 0x1E4EC, 0x1E4F0, 0x1E8D0, 0x1E94B]

/-- The ASCII character of which a character is the wide form. -/
def narrow (c : Char) : Char :=
  if 0xFF01 ≤ c.toNat ∧ c.toNat ≤ 0xFF5E then Char.ofNat (c.toNat - 0xFEE0) else c

/-- The lower-case form of a character. -/
def lower (c : Char) : Char :=
  if c.toNat < 128 then c.toLower
  -- A sigma at the end of a word has a small form of its own, which no capital one becomes.
  else if c = 'Σ' then 'σ'
  else if Unicode.Category.uppercaseLetter.contains c then
    ((Unicode.caseVariants c).find? Unicode.Category.lowercaseLetter.contains).getD c
  else c

/-- A label in the form in which it is compared. -/
def mapped (label : List Char) : List Char :=
  (label.filter (!ignored.contains ·)).map fun c => lower (narrow c)

/-- May the character stand in a label? -/
def isUsable (c : Char) : Bool :=
  c.toNat < 128 || (usable.contains c && !Unicode.Category.unassigned.contains c)

/-- Does the character belong to the one before it? -/
def isMark (c : Char) : Bool :=
  Unicode.Category.nonspacingMark.contains c || Unicode.Category.spacingMark.contains c ||
    Unicode.Category.enclosingMark.contains c

/-- Is a label in normal form as it is, without a mark in front? -/
def isPlain (label : List Char) : Bool :=
  label.all isUsable && !label.head?.any isMark &&
    (label.zip label.tail).all fun (c, next) => !(ordered.contains c && ordered.contains next)

end Retrace.Url.Domain
