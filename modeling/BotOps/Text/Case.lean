import BotOps.Text.Control
import BotOps.Text.Folding
import BotOps.Text.Letter
import BotOps.Text.Mark
import BotOps.Text.Property
import BotOps.Text.Ranges
import BotOps.Text.Sign

/-!
# Case

The properties of Unicode that are about upper and lower case.
-/

namespace BotOps.Text

/-- What counts as upper case though it is no letter in upper case. -/
def otherUppercase : Ranges :=
  [(0x2160, 0x216f), (0x24b6, 0x24cf), (0x1f130, 0x1f149), (0x1f150, 0x1f169), (0x1f170, 0x1f189)]

/-- What counts as lower case though it is no letter in lower case. -/
def otherLowercase : Ranges :=
  [(0xaa, 0xaa), (0xba, 0xba), (0x2b0, 0x2b8), (0x2c0, 0x2c1), (0x2e0, 0x2e4), (0x345, 0x345),
    (0x37a, 0x37a), (0x10fc, 0x10fc), (0x1d2c, 0x1d6a), (0x1d78, 0x1d78), (0x1d9b, 0x1dbf),
    (0x2071, 0x2071), (0x207f, 0x207f), (0x2090, 0x209c), (0x2170, 0x217f), (0x24d0, 0x24e9),
    (0x2c7c, 0x2c7d), (0xa69c, 0xa69d), (0xa770, 0xa770), (0xa7f2, 0xa7f4), (0xa7f8, 0xa7f9),
    (0xab5c, 0xab5f), (0xab69, 0xab69), (0x10780, 0x10780), (0x10783, 0x10785), (0x10787, 0x107b0),
    (0x107b2, 0x107ba), (0x1e030, 0x1e06d)]

/-- The property Uppercase. -/
def uppercase : Ranges :=
  .union uppercaseLetters otherUppercase

/-- The property Lowercase. -/
def lowercase : Ranges :=
  .union lowercaseLetters otherLowercase

/-- The property Cased. -/
def cased : Ranges :=
  .together [lowercase, uppercase, titlecaseLetters]

/-- The property Case_Ignorable: what may stand inside a word without counting for its case. -/
def caseIgnorable : Ranges :=
  .together [nonspacingMarks, enclosingMarks, formatCharacters, modifierLetters, modifierSymbols,
    [(0x27, 0x27), (0x2e, 0x2e), (0x3a, 0x3a), (0xb7, 0xb7), (0x387, 0x387), (0x55f, 0x55f),
      (0x5f4, 0x5f4), (0x2018, 0x2019), (0x2024, 0x2024), (0x2027, 0x2027), (0xfe13, 0xfe13),
      (0xfe52, 0xfe52), (0xfe55, 0xfe55), (0xff07, 0xff07), (0xff0e, 0xff0e), (0xff1a, 0xff1a)]]

/-- The property Soft_Dotted: the letters that lose their dot below a mark. -/
def softDotted : Ranges :=
  [(0x69, 0x6a), (0x12f, 0x12f), (0x249, 0x249), (0x268, 0x268), (0x29d, 0x29d), (0x2b2, 0x2b2),
    (0x3f3, 0x3f3), (0x456, 0x456), (0x458, 0x458), (0x1d62, 0x1d62), (0x1d96, 0x1d96),
    (0x1da4, 0x1da4), (0x1da8, 0x1da8), (0x1e2d, 0x1e2d), (0x1ecb, 0x1ecb), (0x2071, 0x2071),
    (0x2148, 0x2149), (0x2c7c, 0x2c7c), (0x1d422, 0x1d423), (0x1d456, 0x1d457), (0x1d48a, 0x1d48b),
    (0x1d4be, 0x1d4bf), (0x1d4f2, 0x1d4f3), (0x1d526, 0x1d527), (0x1d55a, 0x1d55b),
    (0x1d58e, 0x1d58f), (0x1d5c2, 0x1d5c3), (0x1d5f6, 0x1d5f7), (0x1d62a, 0x1d62b),
    (0x1d65e, 0x1d65f), (0x1d692, 0x1d693), (0x1df1a, 0x1df1a), (0x1e04c, 0x1e04d),
    (0x1e068, 0x1e068)]

/-- The capital letters without a counterpart in lower case. -/
def constantCapitals : Ranges :=
  [(0x3d2, 0x3d4), (0x2102, 0x2102), (0x2107, 0x2107), (0x210b, 0x210d), (0x2110, 0x2112),
    (0x2115, 0x2115), (0x2119, 0x211d), (0x2124, 0x2124), (0x2128, 0x2128), (0x212c, 0x212d),
    (0x2130, 0x2131), (0x2133, 0x2133), (0x213e, 0x213f), (0x2145, 0x2145), (0x1d400, 0x1d419),
    (0x1d434, 0x1d44d), (0x1d468, 0x1d481), (0x1d49c, 0x1d49c), (0x1d49e, 0x1d49f),
    (0x1d4a2, 0x1d4a2), (0x1d4a5, 0x1d4a6), (0x1d4a9, 0x1d4ac), (0x1d4ae, 0x1d4b5),
    (0x1d4d0, 0x1d4e9), (0x1d504, 0x1d505), (0x1d507, 0x1d50a), (0x1d50d, 0x1d514),
    (0x1d516, 0x1d51c), (0x1d538, 0x1d539), (0x1d53b, 0x1d53e), (0x1d540, 0x1d544),
    (0x1d546, 0x1d546), (0x1d54a, 0x1d550), (0x1d56c, 0x1d585), (0x1d5a0, 0x1d5b9),
    (0x1d5d4, 0x1d5ed), (0x1d608, 0x1d621), (0x1d63c, 0x1d655), (0x1d670, 0x1d689),
    (0x1d6a8, 0x1d6c0), (0x1d6e2, 0x1d6fa), (0x1d71c, 0x1d734), (0x1d756, 0x1d76e),
    (0x1d790, 0x1d7a8), (0x1d7ca, 0x1d7ca)]

/-- What changes when it is written in lower case. -/
def changedInLowerCase : Ranges :=
  .difference
    (.together [uppercaseLetters, titlecaseLetters, [(0x2160, 0x216f), (0x24b6, 0x24cf)]])
    constantCapitals

/-- The small letters without a counterpart in upper case. -/
def constantSmalls : Ranges :=
  [(0x138, 0x138), (0x18d, 0x18d), (0x1aa, 0x1ab), (0x1ba, 0x1ba), (0x1be, 0x1be), (0x221, 0x221),
    (0x234, 0x239), (0x255, 0x255), (0x258, 0x258), (0x25a, 0x25a), (0x25d, 0x25f), (0x262, 0x262),
    (0x267, 0x267), (0x26d, 0x26e), (0x270, 0x270), (0x273, 0x274), (0x276, 0x27c), (0x27e, 0x27f),
    (0x281, 0x281), (0x284, 0x286), (0x28d, 0x291), (0x293, 0x293), (0x295, 0x29c), (0x29f, 0x2af),
    (0x3fc, 0x3fc), (0x560, 0x560), (0x588, 0x588), (0x1d00, 0x1d2b), (0x1d6b, 0x1d77),
    (0x1d7a, 0x1d7c), (0x1d7e, 0x1d8d), (0x1d8f, 0x1d9a), (0x1e9c, 0x1e9d), (0x1e9f, 0x1e9f),
    (0x210a, 0x210a), (0x210e, 0x210f), (0x2113, 0x2113), (0x212f, 0x212f), (0x2134, 0x2134),
    (0x2139, 0x2139), (0x213c, 0x213d), (0x2146, 0x2149), (0x2c71, 0x2c71), (0x2c74, 0x2c74),
    (0x2c77, 0x2c7b), (0x2ce4, 0x2ce4), (0xa730, 0xa731), (0xa771, 0xa778), (0xa78e, 0xa78e),
    (0xa795, 0xa795), (0xa7af, 0xa7af), (0xa7d3, 0xa7d3), (0xa7d5, 0xa7d5), (0xa7fa, 0xa7fa),
    (0xab30, 0xab52), (0xab54, 0xab5a), (0xab60, 0xab68), (0x1d41a, 0x1d433), (0x1d44e, 0x1d454),
    (0x1d456, 0x1d467), (0x1d482, 0x1d49b), (0x1d4b6, 0x1d4b9), (0x1d4bb, 0x1d4bb),
    (0x1d4bd, 0x1d4c3), (0x1d4c5, 0x1d4cf), (0x1d4ea, 0x1d503), (0x1d51e, 0x1d537),
    (0x1d552, 0x1d56b), (0x1d586, 0x1d59f), (0x1d5ba, 0x1d5d3), (0x1d5ee, 0x1d607),
    (0x1d622, 0x1d63b), (0x1d656, 0x1d66f), (0x1d68a, 0x1d6a5), (0x1d6c2, 0x1d6da),
    (0x1d6dc, 0x1d6e1), (0x1d6fc, 0x1d714), (0x1d716, 0x1d71b), (0x1d736, 0x1d74e),
    (0x1d750, 0x1d755), (0x1d770, 0x1d788), (0x1d78a, 0x1d78f), (0x1d7aa, 0x1d7c2),
    (0x1d7c4, 0x1d7c9), (0x1d7cb, 0x1d7cb), (0x1df00, 0x1df09), (0x1df0b, 0x1df1e),
    (0x1df25, 0x1df2a)]

/-- What changes when it is written in upper case. -/
def changedInUpperCase : Ranges :=
  .difference
    (.together [lowercaseLetters, titlecaseLetters,
      [(0x345, 0x345), (0x2170, 0x217f), (0x24d0, 0x24e9)]])
    constantSmalls

/-- What changes when it is written in title case. -/
def changedInTitleCase : Ranges :=
  .difference
    (.union changedInUpperCase
      [(0x1c4, 0x1c4), (0x1c7, 0x1c7), (0x1ca, 0x1ca), (0x1f1, 0x1f1)])
    [(0x1c5, 0x1c5), (0x1c8, 0x1c8), (0x1cb, 0x1cb), (0x1f2, 0x1f2), (0x10d0, 0x10fa),
      (0x10fd, 0x10ff), (0x1f88, 0x1f8f), (0x1f98, 0x1f9f), (0x1fa8, 0x1faf), (0x1fbc, 0x1fbc),
      (0x1fcc, 0x1fcc), (0x1ffc, 0x1ffc)]

/-- What changes when differences in case are removed: what the simple folding changes, and what
only the folding to several characters does. -/
def changedByFolding : Ranges :=
  .union (.difference foldable
    [(0x1fbe, 0x1fbe), (0x1fd3, 0x1fd3), (0x1fe3, 0x1fe3)])
    [(0xdf, 0xdf), (0x130, 0x130), (0x149, 0x149), (0x587, 0x587), (0x1e9a, 0x1e9a),
      (0x1f80, 0x1f87), (0x1f90, 0x1f97), (0x1fa0, 0x1fa7), (0x1fb2, 0x1fb4), (0x1fb7, 0x1fb7),
      (0x1fc2, 0x1fc4), (0x1fc7, 0x1fc7), (0x1ff2, 0x1ff4), (0x1ff7, 0x1ff7), (0xfb00, 0xfb04),
      (0xfb06, 0xfb06), (0xfb13, 0xfb17)]

/-- The properties about case and their names. -/
def caseProperties : List Property :=
  [⟨["upper", "uppercase"], uppercase⟩, ⟨["lower", "lowercase"], lowercase⟩, ⟨["cased"], cased⟩,
    ⟨["caseignorable", "ci"], caseIgnorable⟩, ⟨["softdotted", "sd"], softDotted⟩,
    ⟨["changeswhenlowercased", "cwl"], changedInLowerCase⟩,
    ⟨["changeswhenuppercased", "cwu"], changedInUpperCase⟩,
    ⟨["changeswhentitlecased", "cwt"], changedInTitleCase⟩,
    ⟨["changeswhencasemapped", "cwcm"],
      .together [changedInLowerCase, changedInUpperCase, changedInTitleCase]⟩,
    ⟨["changeswhencasefolded", "cwcf"], changedByFolding⟩,
    ⟨["otheruppercase", "oupper"], otherUppercase⟩, ⟨["otherlowercase", "olower"], otherLowercase⟩]

end BotOps.Text
