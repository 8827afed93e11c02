import BotOps.Text.Ranges

/-!
# Characters in the names of hosts

Before the name of a host is looked up its characters are brought into one form. Here are the
characters beyond ASCII that become letters, digits or points of ASCII, and those that are left out.
-/

namespace BotOps.Remote.HostChar

open BotOps.Text

/-- A run of characters that become a run of characters of ASCII. -/
structure Run where
  first : Nat
  last : Nat
  becomes : Char
deriving DecidableEq, Repr

/-- The characters that become one character. -/
def runs : List Run :=
  [⟨0xaa, 0xaa, 'a'⟩, ⟨0xb2, 0xb3, '2'⟩, ⟨0xb9, 0xb9, '1'⟩, ⟨0xba, 0xba, 'o'⟩, ⟨0x17f, 0x17f, 's'⟩,
    ⟨0x2b0, 0x2b0, 'h'⟩, ⟨0x2b2, 0x2b2, 'j'⟩, ⟨0x2b3, 0x2b3, 'r'⟩, ⟨0x2b7, 0x2b7, 'w'⟩,
    ⟨0x2b8, 0x2b8, 'y'⟩, ⟨0x2e1, 0x2e1, 'l'⟩, ⟨0x2e2, 0x2e2, 's'⟩, ⟨0x2e3, 0x2e3, 'x'⟩,
    ⟨0x1d2c, 0x1d2c, 'a'⟩, ⟨0x1d2e, 0x1d2e, 'b'⟩, ⟨0x1d30, 0x1d31, 'd'⟩, ⟨0x1d33, 0x1d3a, 'g'⟩,
    ⟨0x1d3c, 0x1d3c, 'o'⟩, ⟨0x1d3e, 0x1d3e, 'p'⟩, ⟨0x1d3f, 0x1d3f, 'r'⟩, ⟨0x1d40, 0x1d41, 't'⟩,
    ⟨0x1d42, 0x1d42, 'w'⟩, ⟨0x1d43, 0x1d43, 'a'⟩, ⟨0x1d47, 0x1d47, 'b'⟩, ⟨0x1d48, 0x1d49, 'd'⟩,
    ⟨0x1d4d, 0x1d4d, 'g'⟩, ⟨0x1d4f, 0x1d4f, 'k'⟩, ⟨0x1d50, 0x1d50, 'm'⟩, ⟨0x1d52, 0x1d52, 'o'⟩,
    ⟨0x1d56, 0x1d56, 'p'⟩, ⟨0x1d57, 0x1d58, 't'⟩, ⟨0x1d5b, 0x1d5b, 'v'⟩, ⟨0x1d62, 0x1d62, 'i'⟩,
    ⟨0x1d63, 0x1d63, 'r'⟩, ⟨0x1d64, 0x1d65, 'u'⟩, ⟨0x1d9c, 0x1d9c, 'c'⟩, ⟨0x1da0, 0x1da0, 'f'⟩,
    ⟨0x1dbb, 0x1dbb, 'z'⟩, ⟨0x2070, 0x2070, '0'⟩, ⟨0x2071, 0x2071, 'i'⟩, ⟨0x2074, 0x2079, '4'⟩,
    ⟨0x207f, 0x207f, 'n'⟩, ⟨0x2080, 0x2089, '0'⟩, ⟨0x2090, 0x2090, 'a'⟩, ⟨0x2091, 0x2091, 'e'⟩,
    ⟨0x2092, 0x2092, 'o'⟩, ⟨0x2093, 0x2093, 'x'⟩, ⟨0x2095, 0x2095, 'h'⟩, ⟨0x2096, 0x2099, 'k'⟩,
    ⟨0x209a, 0x209a, 'p'⟩, ⟨0x209b, 0x209c, 's'⟩, ⟨0x2102, 0x2102, 'c'⟩, ⟨0x210a, 0x210b, 'g'⟩,
    ⟨0x210c, 0x210c, 'h'⟩, ⟨0x210d, 0x210d, 'h'⟩, ⟨0x210e, 0x210e, 'h'⟩, ⟨0x2110, 0x2110, 'i'⟩,
    ⟨0x2111, 0x2111, 'i'⟩, ⟨0x2112, 0x2112, 'l'⟩, ⟨0x2113, 0x2113, 'l'⟩, ⟨0x2115, 0x2115, 'n'⟩,
    ⟨0x2119, 0x211b, 'p'⟩, ⟨0x211c, 0x211c, 'r'⟩, ⟨0x211d, 0x211d, 'r'⟩, ⟨0x2124, 0x2124, 'z'⟩,
    ⟨0x2128, 0x2128, 'z'⟩, ⟨0x212a, 0x212a, 'k'⟩, ⟨0x212c, 0x212d, 'b'⟩, ⟨0x212f, 0x212f, 'e'⟩,
    ⟨0x2130, 0x2131, 'e'⟩, ⟨0x2133, 0x2133, 'm'⟩, ⟨0x2134, 0x2134, 'o'⟩, ⟨0x2139, 0x2139, 'i'⟩,
    ⟨0x2145, 0x2145, 'd'⟩, ⟨0x2146, 0x2147, 'd'⟩, ⟨0x2148, 0x2149, 'i'⟩, ⟨0x2160, 0x2160, 'i'⟩,
    ⟨0x2164, 0x2164, 'v'⟩, ⟨0x2169, 0x2169, 'x'⟩, ⟨0x216c, 0x216c, 'l'⟩, ⟨0x216d, 0x216e, 'c'⟩,
    ⟨0x216f, 0x216f, 'm'⟩, ⟨0x2170, 0x2170, 'i'⟩, ⟨0x2174, 0x2174, 'v'⟩, ⟨0x2179, 0x2179, 'x'⟩,
    ⟨0x217c, 0x217c, 'l'⟩, ⟨0x217d, 0x217e, 'c'⟩, ⟨0x217f, 0x217f, 'm'⟩, ⟨0x2460, 0x2468, '1'⟩,
    ⟨0x24b6, 0x24cf, 'a'⟩, ⟨0x24d0, 0x24e9, 'a'⟩, ⟨0x24ea, 0x24ea, '0'⟩, ⟨0x2c7c, 0x2c7c, 'j'⟩,
    ⟨0x2c7d, 0x2c7d, 'v'⟩, ⟨0x3002, 0x3002, '.'⟩, ⟨0xa7f1, 0xa7f1, 's'⟩, ⟨0xa7f2, 0xa7f2, 'c'⟩,
    ⟨0xa7f3, 0xa7f3, 'f'⟩, ⟨0xa7f4, 0xa7f4, 'q'⟩, ⟨0xff0e, 0xff0e, '.'⟩, ⟨0xff10, 0xff19, '0'⟩,
    ⟨0xff21, 0xff3a, 'a'⟩, ⟨0xff41, 0xff5a, 'a'⟩, ⟨0xff61, 0xff61, '.'⟩, ⟨0x107a5, 0x107a5, 'q'⟩,
    ⟨0x1ccd6, 0x1ccef, 'a'⟩, ⟨0x1ccf0, 0x1ccf9, '0'⟩, ⟨0x1d400, 0x1d419, 'a'⟩,
    ⟨0x1d41a, 0x1d433, 'a'⟩, ⟨0x1d434, 0x1d44d, 'a'⟩, ⟨0x1d44e, 0x1d454, 'a'⟩,
    ⟨0x1d456, 0x1d467, 'i'⟩, ⟨0x1d468, 0x1d481, 'a'⟩, ⟨0x1d482, 0x1d49b, 'a'⟩,
    ⟨0x1d49c, 0x1d49c, 'a'⟩, ⟨0x1d49e, 0x1d49f, 'c'⟩, ⟨0x1d4a2, 0x1d4a2, 'g'⟩,
    ⟨0x1d4a5, 0x1d4a6, 'j'⟩, ⟨0x1d4a9, 0x1d4ac, 'n'⟩, ⟨0x1d4ae, 0x1d4b5, 's'⟩,
    ⟨0x1d4b6, 0x1d4b9, 'a'⟩, ⟨0x1d4bb, 0x1d4bb, 'f'⟩, ⟨0x1d4bd, 0x1d4c3, 'h'⟩,
    ⟨0x1d4c5, 0x1d4cf, 'p'⟩, ⟨0x1d4d0, 0x1d4e9, 'a'⟩, ⟨0x1d4ea, 0x1d503, 'a'⟩,
    ⟨0x1d504, 0x1d505, 'a'⟩, ⟨0x1d507, 0x1d50a, 'd'⟩, ⟨0x1d50d, 0x1d514, 'j'⟩,
    ⟨0x1d516, 0x1d51c, 's'⟩, ⟨0x1d51e, 0x1d537, 'a'⟩, ⟨0x1d538, 0x1d539, 'a'⟩,
    ⟨0x1d53b, 0x1d53e, 'd'⟩, ⟨0x1d540, 0x1d544, 'i'⟩, ⟨0x1d546, 0x1d546, 'o'⟩,
    ⟨0x1d54a, 0x1d550, 's'⟩, ⟨0x1d552, 0x1d56b, 'a'⟩, ⟨0x1d56c, 0x1d585, 'a'⟩,
    ⟨0x1d586, 0x1d59f, 'a'⟩, ⟨0x1d5a0, 0x1d5b9, 'a'⟩, ⟨0x1d5ba, 0x1d5d3, 'a'⟩,
    ⟨0x1d5d4, 0x1d5ed, 'a'⟩, ⟨0x1d5ee, 0x1d607, 'a'⟩, ⟨0x1d608, 0x1d621, 'a'⟩,
    ⟨0x1d622, 0x1d63b, 'a'⟩, ⟨0x1d63c, 0x1d655, 'a'⟩, ⟨0x1d656, 0x1d66f, 'a'⟩,
    ⟨0x1d670, 0x1d689, 'a'⟩, ⟨0x1d68a, 0x1d6a3, 'a'⟩, ⟨0x1d7ce, 0x1d7d7, '0'⟩,
    ⟨0x1d7d8, 0x1d7e1, '0'⟩, ⟨0x1d7e2, 0x1d7eb, '0'⟩, ⟨0x1d7ec, 0x1d7f5, '0'⟩,
    ⟨0x1d7f6, 0x1d7ff, '0'⟩, ⟨0x1f12b, 0x1f12b, 'c'⟩, ⟨0x1f12c, 0x1f12c, 'r'⟩,
    ⟨0x1f130, 0x1f149, 'a'⟩, ⟨0x1fbf0, 0x1fbf9, '0'⟩]

/-- The characters that become several characters, in runs with their first code points. -/
def expansions : List (Nat × List String) :=
  [(0x132, ["ij", "ij"]), (0x1c7, ["lj", "lj", "lj", "nj", "nj", "nj"]),
    (0x1f1, ["dz", "dz", "dz"]), (0x20a8, ["rs"]), (0x2116, ["no"]), (0x2120, ["sm", "tel", "tm"]),
    (0x213b, ["fax"]), (0x2161, ["ii", "iii", "iv"]), (0x2165, ["vi", "vii", "viii", "ix"]),
    (0x216a, ["xi", "xii"]), (0x2171, ["ii", "iii", "iv"]), (0x2175, ["vi", "vii", "viii", "ix"]),
    (0x217a, ["xi", "xii"]),
    (0x2469, ["10", "11", "12", "13", "14", "15", "16", "17", "18", "19", "20"]),
    (0x3250, ["pte", "21", "22", "23", "24", "25", "26", "27", "28", "29", "30", "31", "32", "33",
        "34", "35"]),
    (0x32b1, ["36", "37", "38", "39", "40", "41", "42", "43", "44", "45", "46", "47", "48", "49",
        "50"]), (0x32cc, ["hg", "erg", "ev", "ltd"]),
    (0x3371, ["hpa", "da", "au", "bar", "ov", "pc", "dm", "dm2", "dm3", "iu"]),
    (0x3380, ["pa", "na"]), (0x3383, ["ma", "ka", "kb", "mb", "gb", "cal", "kcal", "pf", "nf"]),
    (0x338e, ["mg", "kg", "hz", "khz", "mhz", "ghz", "thz"]),
    (0x3396, ["ml", "dl", "kl", "fm", "nm"]),
    (0x339c, ["mm", "cm", "km", "mm2", "cm2", "m2", "km2", "mm3", "cm3", "m3", "km3"]),
    (0x33a9, ["pa", "kpa", "mpa", "gpa", "rad"]), (0x33b0, ["ps", "ns"]),
    (0x33b3, ["ms", "pv", "nv"]), (0x33b7, ["mv", "kv", "mv", "pw", "nw"]),
    (0x33bd, ["mw", "kw", "mw"]), (0x33c3, ["bq", "cc", "cd"]),
    (0x33c8, ["db", "gy", "ha", "hp", "in", "kk", "km", "kt", "lm", "ln", "log", "lx", "mb", "mil",
        "mol", "ph"]), (0x33d9, ["ppm", "pr", "sr", "sv", "wb"]), (0x33ff, ["gal"]),
    (0xfb00, ["ff", "fi", "fl", "ffi", "ffl", "st", "st"]), (0x1f12d, ["cd", "wz"]),
    (0x1f14a, ["hv", "mv", "sd", "ss", "ppv", "wc"]), (0x1f16a, ["mc", "md", "mr"]),
    (0x1f190, ["dj"])]

/-- The characters that are left out. -/
def omitted : Ranges :=
  [(0xad, 0xad), (0x34f, 0x34f), (0x115f, 0x1160), (0x17b4, 0x17b5), (0x180b, 0x180f),
    (0x200b, 0x200b), (0x2060, 0x2064), (0x206a, 0x206f), (0x3164, 0x3164), (0xfe00, 0xfe0f),
    (0xfeff, 0xfeff), (0xffa0, 0xffa0), (0x1bca0, 0x1bca3), (0x1d173, 0x1d17a), (0xe0100, 0xe01ef)]

/-- What a character becomes in the name of a host. Other characters stay as they are; no name of
ASCII comes from them. -/
def normal (c : Char) : List Char :=
  if c.toNat < 0x80 then [c.toLower]
  else if omitted.contains c then []
  else
    match runs.find? fun run ↦ run.first ≤ c.toNat && c.toNat ≤ run.last with
    | some run => [Char.ofNat (run.becomes.toNat + (c.toNat - run.first))]
    | none =>
      let expansion := expansions.findSome? fun run ↦
        if run.1 ≤ c.toNat then run.2[c.toNat - run.1]? else none
      (expansion.map String.toList).getD [c]

end BotOps.Remote.HostChar
