/-!
# The Unicode tables the scripts read

`str.lower` and the `\w` class of `re` consult CPython's Unicode database. What
the scripts use of it is kept here, from CPython 3.11, which carries Unicode
14.0: the lower-case mapping of every character beyond ASCII, the two
properties the final-sigma rule of `str.lower` tests, the characters
`str.isalnum` accepts, and the characters `repr` escapes. Each table is a list
of ranges of code points, read by `inRanges`; the functions that read them are
in `Text`, `Regex` and `Value`.
-/

namespace TfK8s.Py.Unicode

/-- Whether `n` lies in one of the ranges, each given by its first and last
code point. -/
def inRanges (rs : List (Nat × Nat)) (n : Nat) : Bool :=
  rs.any fun r => r.1 ≤ n && n ≤ r.2

/-- The one-to-one lower-case mappings beyond ASCII, other than that of `Σ`. A
rule `(lo, hi, step, delta)` maps `lo`, `lo + step`, … up to `hi`, each to the
code point `delta` further on. The one mapping to two characters, that of `İ`,
is not among them. -/
def lowerRules : List (Nat × Nat × Nat × Int) := List.flatten [
  [(0xc0, 0xd6, 1, 32), (0xd8, 0xde, 1, 32), (0x100, 0x12e, 2, 1), (0x132, 0x136, 2, 1),
    (0x139, 0x147, 2, 1), (0x14a, 0x176, 2, 1), (0x178, 0x178, 1, -121), (0x179, 0x17d, 2, 1),
    (0x181, 0x181, 1, 210), (0x182, 0x184, 2, 1), (0x186, 0x186, 1, 206), (0x187, 0x187, 1, 1),
    (0x189, 0x18a, 1, 205), (0x18b, 0x18b, 1, 1), (0x18e, 0x18e, 1, 79), (0x18f, 0x18f, 1, 202),
    (0x190, 0x190, 1, 203), (0x191, 0x191, 1, 1), (0x193, 0x193, 1, 205), (0x194, 0x194, 1, 207),
    (0x196, 0x196, 1, 211), (0x197, 0x197, 1, 209), (0x198, 0x198, 1, 1), (0x19c, 0x19c, 1, 211)],
  [(0x19d, 0x19d, 1, 213), (0x19f, 0x19f, 1, 214), (0x1a0, 0x1a4, 2, 1), (0x1a6, 0x1a6, 1, 218),
    (0x1a7, 0x1a7, 1, 1), (0x1a9, 0x1a9, 1, 218), (0x1ac, 0x1ac, 1, 1), (0x1ae, 0x1ae, 1, 218),
    (0x1af, 0x1af, 1, 1), (0x1b1, 0x1b2, 1, 217), (0x1b3, 0x1b5, 2, 1), (0x1b7, 0x1b7, 1, 219),
    (0x1b8, 0x1b8, 1, 1), (0x1bc, 0x1bc, 1, 1), (0x1c4, 0x1c4, 1, 2), (0x1c5, 0x1c5, 1, 1),
    (0x1c7, 0x1c7, 1, 2), (0x1c8, 0x1c8, 1, 1), (0x1ca, 0x1ca, 1, 2), (0x1cb, 0x1db, 2, 1),
    (0x1de, 0x1ee, 2, 1), (0x1f1, 0x1f1, 1, 2), (0x1f2, 0x1f4, 2, 1), (0x1f6, 0x1f6, 1, -97)],
  [(0x1f7, 0x1f7, 1, -56), (0x1f8, 0x21e, 2, 1), (0x220, 0x220, 1, -130), (0x222, 0x232, 2, 1),
    (0x23a, 0x23a, 1, 10795), (0x23b, 0x23b, 1, 1), (0x23d, 0x23d, 1, -163), (0x23e, 0x23e, 1, 10792),
    (0x241, 0x241, 1, 1), (0x243, 0x243, 1, -195), (0x244, 0x244, 1, 69), (0x245, 0x245, 1, 71),
    (0x246, 0x24e, 2, 1), (0x370, 0x372, 2, 1), (0x376, 0x376, 1, 1), (0x37f, 0x37f, 1, 116),
    (0x386, 0x386, 1, 38), (0x388, 0x38a, 1, 37), (0x38c, 0x38c, 1, 64), (0x38e, 0x38f, 1, 63),
    (0x391, 0x3a1, 1, 32), (0x3a4, 0x3ab, 1, 32), (0x3cf, 0x3cf, 1, 8), (0x3d8, 0x3ee, 2, 1)],
  [(0x3f4, 0x3f4, 1, -60), (0x3f7, 0x3f7, 1, 1), (0x3f9, 0x3f9, 1, -7), (0x3fa, 0x3fa, 1, 1),
    (0x3fd, 0x3ff, 1, -130), (0x400, 0x40f, 1, 80), (0x410, 0x42f, 1, 32), (0x460, 0x480, 2, 1),
    (0x48a, 0x4be, 2, 1), (0x4c0, 0x4c0, 1, 15), (0x4c1, 0x4cd, 2, 1), (0x4d0, 0x52e, 2, 1),
    (0x531, 0x556, 1, 48), (0x10a0, 0x10c5, 1, 7264), (0x10c7, 0x10c7, 1, 7264), (0x10cd, 0x10cd, 1, 7264),
    (0x13a0, 0x13ef, 1, 38864), (0x13f0, 0x13f5, 1, 8), (0x1c90, 0x1cba, 1, -3008), (0x1cbd, 0x1cbf, 1, -3008),
    (0x1e00, 0x1e94, 2, 1), (0x1e9e, 0x1e9e, 1, -7615), (0x1ea0, 0x1efe, 2, 1), (0x1f08, 0x1f0f, 1, -8)],
  [(0x1f18, 0x1f1d, 1, -8), (0x1f28, 0x1f2f, 1, -8), (0x1f38, 0x1f3f, 1, -8), (0x1f48, 0x1f4d, 1, -8),
    (0x1f59, 0x1f5f, 2, -8), (0x1f68, 0x1f6f, 1, -8), (0x1f88, 0x1f8f, 1, -8), (0x1f98, 0x1f9f, 1, -8),
    (0x1fa8, 0x1faf, 1, -8), (0x1fb8, 0x1fb9, 1, -8), (0x1fba, 0x1fbb, 1, -74), (0x1fbc, 0x1fbc, 1, -9),
    (0x1fc8, 0x1fcb, 1, -86), (0x1fcc, 0x1fcc, 1, -9), (0x1fd8, 0x1fd9, 1, -8), (0x1fda, 0x1fdb, 1, -100),
    (0x1fe8, 0x1fe9, 1, -8), (0x1fea, 0x1feb, 1, -112), (0x1fec, 0x1fec, 1, -7), (0x1ff8, 0x1ff9, 1, -128),
    (0x1ffa, 0x1ffb, 1, -126), (0x1ffc, 0x1ffc, 1, -9), (0x2126, 0x2126, 1, -7517), (0x212a, 0x212a, 1, -8383)],
  [(0x212b, 0x212b, 1, -8262), (0x2132, 0x2132, 1, 28), (0x2160, 0x216f, 1, 16), (0x2183, 0x2183, 1, 1),
    (0x24b6, 0x24cf, 1, 26), (0x2c00, 0x2c2f, 1, 48), (0x2c60, 0x2c60, 1, 1), (0x2c62, 0x2c62, 1, -10743),
    (0x2c63, 0x2c63, 1, -3814), (0x2c64, 0x2c64, 1, -10727), (0x2c67, 0x2c6b, 2, 1), (0x2c6d, 0x2c6d, 1, -10780),
    (0x2c6e, 0x2c6e, 1, -10749), (0x2c6f, 0x2c6f, 1, -10783), (0x2c70, 0x2c70, 1, -10782), (0x2c72, 0x2c72, 1, 1),
    (0x2c75, 0x2c75, 1, 1), (0x2c7e, 0x2c7f, 1, -10815), (0x2c80, 0x2ce2, 2, 1), (0x2ceb, 0x2ced, 2, 1),
    (0x2cf2, 0x2cf2, 1, 1), (0xa640, 0xa66c, 2, 1), (0xa680, 0xa69a, 2, 1), (0xa722, 0xa72e, 2, 1)],
  [(0xa732, 0xa76e, 2, 1), (0xa779, 0xa77b, 2, 1), (0xa77d, 0xa77d, 1, -35332), (0xa77e, 0xa786, 2, 1),
    (0xa78b, 0xa78b, 1, 1), (0xa78d, 0xa78d, 1, -42280), (0xa790, 0xa792, 2, 1), (0xa796, 0xa7a8, 2, 1),
    (0xa7aa, 0xa7aa, 1, -42308), (0xa7ab, 0xa7ab, 1, -42319), (0xa7ac, 0xa7ac, 1, -42315), (0xa7ad, 0xa7ad, 1, -42305),
    (0xa7ae, 0xa7ae, 1, -42308), (0xa7b0, 0xa7b0, 1, -42258), (0xa7b1, 0xa7b1, 1, -42282), (0xa7b2, 0xa7b2, 1, -42261),
    (0xa7b3, 0xa7b3, 1, 928), (0xa7b4, 0xa7c2, 2, 1), (0xa7c4, 0xa7c4, 1, -48), (0xa7c5, 0xa7c5, 1, -42307),
    (0xa7c6, 0xa7c6, 1, -35384), (0xa7c7, 0xa7c9, 2, 1), (0xa7d0, 0xa7d0, 1, 1), (0xa7d6, 0xa7d8, 2, 1)],
  [(0xa7f5, 0xa7f5, 1, 1), (0xff21, 0xff3a, 1, 32), (0x10400, 0x10427, 1, 40), (0x104b0, 0x104d3, 1, 40),
    (0x10570, 0x1057a, 1, 39), (0x1057c, 0x1058a, 1, 39), (0x1058c, 0x10592, 1, 39), (0x10594, 0x10595, 1, 39),
    (0x10c80, 0x10cb2, 1, 64), (0x118a0, 0x118bf, 1, 32), (0x16e40, 0x16e5f, 1, 32), (0x1e900, 0x1e921, 1, 34)]]

/-- The characters with the `Cased` property that are not `Case_Ignorable`:
the final-sigma rule tests a character for `Cased` only after passing over the
case-ignorable ones. -/
def casedRanges : List (Nat × Nat) := List.flatten [
  [(0x41, 0x5a), (0x61, 0x7a), (0xaa, 0xaa), (0xb5, 0xb5), (0xba, 0xba), (0xc0, 0xd6),
    (0xd8, 0xf6), (0xf8, 0x1ba), (0x1bc, 0x1bf), (0x1c4, 0x293), (0x295, 0x2af), (0x370, 0x373),
    (0x376, 0x377), (0x37b, 0x37d), (0x37f, 0x37f), (0x386, 0x386), (0x388, 0x38a), (0x38c, 0x38c),
    (0x38e, 0x3a1), (0x3a3, 0x3f5), (0x3f7, 0x481), (0x48a, 0x52f), (0x531, 0x556), (0x560, 0x588)],
  [(0x10a0, 0x10c5), (0x10c7, 0x10c7), (0x10cd, 0x10cd), (0x10d0, 0x10fa), (0x10fd, 0x10ff), (0x13a0, 0x13f5),
    (0x13f8, 0x13fd), (0x1c80, 0x1c88), (0x1c90, 0x1cba), (0x1cbd, 0x1cbf), (0x1d00, 0x1d2b), (0x1d6b, 0x1d77),
    (0x1d79, 0x1d9a), (0x1e00, 0x1f15), (0x1f18, 0x1f1d), (0x1f20, 0x1f45), (0x1f48, 0x1f4d), (0x1f50, 0x1f57),
    (0x1f59, 0x1f59), (0x1f5b, 0x1f5b), (0x1f5d, 0x1f5d), (0x1f5f, 0x1f7d), (0x1f80, 0x1fb4), (0x1fb6, 0x1fbc)],
  [(0x1fbe, 0x1fbe), (0x1fc2, 0x1fc4), (0x1fc6, 0x1fcc), (0x1fd0, 0x1fd3), (0x1fd6, 0x1fdb), (0x1fe0, 0x1fec),
    (0x1ff2, 0x1ff4), (0x1ff6, 0x1ffc), (0x2102, 0x2102), (0x2107, 0x2107), (0x210a, 0x2113), (0x2115, 0x2115),
    (0x2119, 0x211d), (0x2124, 0x2124), (0x2126, 0x2126), (0x2128, 0x2128), (0x212a, 0x212d), (0x212f, 0x2134),
    (0x2139, 0x2139), (0x213c, 0x213f), (0x2145, 0x2149), (0x214e, 0x214e), (0x2160, 0x217f), (0x2183, 0x2184)],
  [(0x24b6, 0x24e9), (0x2c00, 0x2c7b), (0x2c7e, 0x2ce4), (0x2ceb, 0x2cee), (0x2cf2, 0x2cf3), (0x2d00, 0x2d25),
    (0x2d27, 0x2d27), (0x2d2d, 0x2d2d), (0xa640, 0xa66d), (0xa680, 0xa69b), (0xa722, 0xa76f), (0xa771, 0xa787),
    (0xa78b, 0xa78e), (0xa790, 0xa7ca), (0xa7d0, 0xa7d1), (0xa7d3, 0xa7d3), (0xa7d5, 0xa7d9), (0xa7f5, 0xa7f6),
    (0xa7fa, 0xa7fa), (0xab30, 0xab5a), (0xab60, 0xab68), (0xab70, 0xabbf), (0xfb00, 0xfb06), (0xfb13, 0xfb17)],
  [(0xff21, 0xff3a), (0xff41, 0xff5a), (0x10400, 0x1044f), (0x104b0, 0x104d3), (0x104d8, 0x104fb), (0x10570, 0x1057a),
    (0x1057c, 0x1058a), (0x1058c, 0x10592), (0x10594, 0x10595), (0x10597, 0x105a1), (0x105a3, 0x105b1), (0x105b3, 0x105b9),
    (0x105bb, 0x105bc), (0x10c80, 0x10cb2), (0x10cc0, 0x10cf2), (0x118a0, 0x118df), (0x16e40, 0x16e7f), (0x1d400, 0x1d454),
    (0x1d456, 0x1d49c), (0x1d49e, 0x1d49f), (0x1d4a2, 0x1d4a2), (0x1d4a5, 0x1d4a6), (0x1d4a9, 0x1d4ac), (0x1d4ae, 0x1d4b9)],
  [(0x1d4bb, 0x1d4bb), (0x1d4bd, 0x1d4c3), (0x1d4c5, 0x1d505), (0x1d507, 0x1d50a), (0x1d50d, 0x1d514), (0x1d516, 0x1d51c),
    (0x1d51e, 0x1d539), (0x1d53b, 0x1d53e), (0x1d540, 0x1d544), (0x1d546, 0x1d546), (0x1d54a, 0x1d550), (0x1d552, 0x1d6a5),
    (0x1d6a8, 0x1d6c0), (0x1d6c2, 0x1d6da), (0x1d6dc, 0x1d6fa), (0x1d6fc, 0x1d714), (0x1d716, 0x1d734), (0x1d736, 0x1d74e),
    (0x1d750, 0x1d76e), (0x1d770, 0x1d788), (0x1d78a, 0x1d7a8), (0x1d7aa, 0x1d7c2), (0x1d7c4, 0x1d7cb), (0x1df00, 0x1df09)],
  [(0x1df0b, 0x1df1e), (0x1e900, 0x1e943), (0x1f130, 0x1f149), (0x1f150, 0x1f169), (0x1f170, 0x1f189)]]

/-- The characters with the `Case_Ignorable` property. -/
def caseIgnorableRanges : List (Nat × Nat) := List.flatten [
  [(0x27, 0x27), (0x2e, 0x2e), (0x3a, 0x3a), (0x5e, 0x5e), (0x60, 0x60), (0xa8, 0xa8),
    (0xad, 0xad), (0xaf, 0xaf), (0xb4, 0xb4), (0xb7, 0xb8), (0x2b0, 0x36f), (0x374, 0x375),
    (0x37a, 0x37a), (0x384, 0x385), (0x387, 0x387), (0x483, 0x489), (0x559, 0x559), (0x55f, 0x55f),
    (0x591, 0x5bd), (0x5bf, 0x5bf), (0x5c1, 0x5c2), (0x5c4, 0x5c5), (0x5c7, 0x5c7), (0x5f4, 0x5f4)],
  [(0x600, 0x605), (0x610, 0x61a), (0x61c, 0x61c), (0x640, 0x640), (0x64b, 0x65f), (0x670, 0x670),
    (0x6d6, 0x6dd), (0x6df, 0x6e8), (0x6ea, 0x6ed), (0x70f, 0x70f), (0x711, 0x711), (0x730, 0x74a),
    (0x7a6, 0x7b0), (0x7eb, 0x7f5), (0x7fa, 0x7fa), (0x7fd, 0x7fd), (0x816, 0x82d), (0x859, 0x85b),
    (0x888, 0x888), (0x890, 0x891), (0x898, 0x89f), (0x8c9, 0x902), (0x93a, 0x93a), (0x93c, 0x93c)],
  [(0x941, 0x948), (0x94d, 0x94d), (0x951, 0x957), (0x962, 0x963), (0x971, 0x971), (0x981, 0x981),
    (0x9bc, 0x9bc), (0x9c1, 0x9c4), (0x9cd, 0x9cd), (0x9e2, 0x9e3), (0x9fe, 0x9fe), (0xa01, 0xa02),
    (0xa3c, 0xa3c), (0xa41, 0xa42), (0xa47, 0xa48), (0xa4b, 0xa4d), (0xa51, 0xa51), (0xa70, 0xa71),
    (0xa75, 0xa75), (0xa81, 0xa82), (0xabc, 0xabc), (0xac1, 0xac5), (0xac7, 0xac8), (0xacd, 0xacd)],
  [(0xae2, 0xae3), (0xafa, 0xaff), (0xb01, 0xb01), (0xb3c, 0xb3c), (0xb3f, 0xb3f), (0xb41, 0xb44),
    (0xb4d, 0xb4d), (0xb55, 0xb56), (0xb62, 0xb63), (0xb82, 0xb82), (0xbc0, 0xbc0), (0xbcd, 0xbcd),
    (0xc00, 0xc00), (0xc04, 0xc04), (0xc3c, 0xc3c), (0xc3e, 0xc40), (0xc46, 0xc48), (0xc4a, 0xc4d),
    (0xc55, 0xc56), (0xc62, 0xc63), (0xc81, 0xc81), (0xcbc, 0xcbc), (0xcbf, 0xcbf), (0xcc6, 0xcc6)],
  [(0xccc, 0xccd), (0xce2, 0xce3), (0xd00, 0xd01), (0xd3b, 0xd3c), (0xd41, 0xd44), (0xd4d, 0xd4d),
    (0xd62, 0xd63), (0xd81, 0xd81), (0xdca, 0xdca), (0xdd2, 0xdd4), (0xdd6, 0xdd6), (0xe31, 0xe31),
    (0xe34, 0xe3a), (0xe46, 0xe4e), (0xeb1, 0xeb1), (0xeb4, 0xebc), (0xec6, 0xec6), (0xec8, 0xecd),
    (0xf18, 0xf19), (0xf35, 0xf35), (0xf37, 0xf37), (0xf39, 0xf39), (0xf71, 0xf7e), (0xf80, 0xf84)],
  [(0xf86, 0xf87), (0xf8d, 0xf97), (0xf99, 0xfbc), (0xfc6, 0xfc6), (0x102d, 0x1030), (0x1032, 0x1037),
    (0x1039, 0x103a), (0x103d, 0x103e), (0x1058, 0x1059), (0x105e, 0x1060), (0x1071, 0x1074), (0x1082, 0x1082),
    (0x1085, 0x1086), (0x108d, 0x108d), (0x109d, 0x109d), (0x10fc, 0x10fc), (0x135d, 0x135f), (0x1712, 0x1714),
    (0x1732, 0x1733), (0x1752, 0x1753), (0x1772, 0x1773), (0x17b4, 0x17b5), (0x17b7, 0x17bd), (0x17c6, 0x17c6)],
  [(0x17c9, 0x17d3), (0x17d7, 0x17d7), (0x17dd, 0x17dd), (0x180b, 0x180f), (0x1843, 0x1843), (0x1885, 0x1886),
    (0x18a9, 0x18a9), (0x1920, 0x1922), (0x1927, 0x1928), (0x1932, 0x1932), (0x1939, 0x193b), (0x1a17, 0x1a18),
    (0x1a1b, 0x1a1b), (0x1a56, 0x1a56), (0x1a58, 0x1a5e), (0x1a60, 0x1a60), (0x1a62, 0x1a62), (0x1a65, 0x1a6c),
    (0x1a73, 0x1a7c), (0x1a7f, 0x1a7f), (0x1aa7, 0x1aa7), (0x1ab0, 0x1ace), (0x1b00, 0x1b03), (0x1b34, 0x1b34)],
  [(0x1b36, 0x1b3a), (0x1b3c, 0x1b3c), (0x1b42, 0x1b42), (0x1b6b, 0x1b73), (0x1b80, 0x1b81), (0x1ba2, 0x1ba5),
    (0x1ba8, 0x1ba9), (0x1bab, 0x1bad), (0x1be6, 0x1be6), (0x1be8, 0x1be9), (0x1bed, 0x1bed), (0x1bef, 0x1bf1),
    (0x1c2c, 0x1c33), (0x1c36, 0x1c37), (0x1c78, 0x1c7d), (0x1cd0, 0x1cd2), (0x1cd4, 0x1ce0), (0x1ce2, 0x1ce8),
    (0x1ced, 0x1ced), (0x1cf4, 0x1cf4), (0x1cf8, 0x1cf9), (0x1d2c, 0x1d6a), (0x1d78, 0x1d78), (0x1d9b, 0x1dff)],
  [(0x1fbd, 0x1fbd), (0x1fbf, 0x1fc1), (0x1fcd, 0x1fcf), (0x1fdd, 0x1fdf), (0x1fed, 0x1fef), (0x1ffd, 0x1ffe),
    (0x200b, 0x200f), (0x2018, 0x2019), (0x2024, 0x2024), (0x2027, 0x2027), (0x202a, 0x202e), (0x2060, 0x2064),
    (0x2066, 0x206f), (0x2071, 0x2071), (0x207f, 0x207f), (0x2090, 0x209c), (0x20d0, 0x20f0), (0x2c7c, 0x2c7d),
    (0x2cef, 0x2cf1), (0x2d6f, 0x2d6f), (0x2d7f, 0x2d7f), (0x2de0, 0x2dff), (0x2e2f, 0x2e2f), (0x3005, 0x3005)],
  [(0x302a, 0x302d), (0x3031, 0x3035), (0x303b, 0x303b), (0x3099, 0x309e), (0x30fc, 0x30fe), (0xa015, 0xa015),
    (0xa4f8, 0xa4fd), (0xa60c, 0xa60c), (0xa66f, 0xa672), (0xa674, 0xa67d), (0xa67f, 0xa67f), (0xa69c, 0xa69f),
    (0xa6f0, 0xa6f1), (0xa700, 0xa721), (0xa770, 0xa770), (0xa788, 0xa78a), (0xa7f2, 0xa7f4), (0xa7f8, 0xa7f9),
    (0xa802, 0xa802), (0xa806, 0xa806), (0xa80b, 0xa80b), (0xa825, 0xa826), (0xa82c, 0xa82c), (0xa8c4, 0xa8c5)],
  [(0xa8e0, 0xa8f1), (0xa8ff, 0xa8ff), (0xa926, 0xa92d), (0xa947, 0xa951), (0xa980, 0xa982), (0xa9b3, 0xa9b3),
    (0xa9b6, 0xa9b9), (0xa9bc, 0xa9bd), (0xa9cf, 0xa9cf), (0xa9e5, 0xa9e6), (0xaa29, 0xaa2e), (0xaa31, 0xaa32),
    (0xaa35, 0xaa36), (0xaa43, 0xaa43), (0xaa4c, 0xaa4c), (0xaa70, 0xaa70), (0xaa7c, 0xaa7c), (0xaab0, 0xaab0),
    (0xaab2, 0xaab4), (0xaab7, 0xaab8), (0xaabe, 0xaabf), (0xaac1, 0xaac1), (0xaadd, 0xaadd), (0xaaec, 0xaaed)],
  [(0xaaf3, 0xaaf4), (0xaaf6, 0xaaf6), (0xab5b, 0xab5f), (0xab69, 0xab6b), (0xabe5, 0xabe5), (0xabe8, 0xabe8),
    (0xabed, 0xabed), (0xfb1e, 0xfb1e), (0xfbb2, 0xfbc2), (0xfe00, 0xfe0f), (0xfe13, 0xfe13), (0xfe20, 0xfe2f),
    (0xfe52, 0xfe52), (0xfe55, 0xfe55), (0xfeff, 0xfeff), (0xff07, 0xff07), (0xff0e, 0xff0e), (0xff1a, 0xff1a),
    (0xff3e, 0xff3e), (0xff40, 0xff40), (0xff70, 0xff70), (0xff9e, 0xff9f), (0xffe3, 0xffe3), (0xfff9, 0xfffb)],
  [(0x101fd, 0x101fd), (0x102e0, 0x102e0), (0x10376, 0x1037a), (0x10780, 0x10785), (0x10787, 0x107b0), (0x107b2, 0x107ba),
    (0x10a01, 0x10a03), (0x10a05, 0x10a06), (0x10a0c, 0x10a0f), (0x10a38, 0x10a3a), (0x10a3f, 0x10a3f), (0x10ae5, 0x10ae6),
    (0x10d24, 0x10d27), (0x10eab, 0x10eac), (0x10f46, 0x10f50), (0x10f82, 0x10f85), (0x11001, 0x11001), (0x11038, 0x11046),
    (0x11070, 0x11070), (0x11073, 0x11074), (0x1107f, 0x11081), (0x110b3, 0x110b6), (0x110b9, 0x110ba), (0x110bd, 0x110bd)],
  [(0x110c2, 0x110c2), (0x110cd, 0x110cd), (0x11100, 0x11102), (0x11127, 0x1112b), (0x1112d, 0x11134), (0x11173, 0x11173),
    (0x11180, 0x11181), (0x111b6, 0x111be), (0x111c9, 0x111cc), (0x111cf, 0x111cf), (0x1122f, 0x11231), (0x11234, 0x11234),
    (0x11236, 0x11237), (0x1123e, 0x1123e), (0x112df, 0x112df), (0x112e3, 0x112ea), (0x11300, 0x11301), (0x1133b, 0x1133c),
    (0x11340, 0x11340), (0x11366, 0x1136c), (0x11370, 0x11374), (0x11438, 0x1143f), (0x11442, 0x11444), (0x11446, 0x11446)],
  [(0x1145e, 0x1145e), (0x114b3, 0x114b8), (0x114ba, 0x114ba), (0x114bf, 0x114c0), (0x114c2, 0x114c3), (0x115b2, 0x115b5),
    (0x115bc, 0x115bd), (0x115bf, 0x115c0), (0x115dc, 0x115dd), (0x11633, 0x1163a), (0x1163d, 0x1163d), (0x1163f, 0x11640),
    (0x116ab, 0x116ab), (0x116ad, 0x116ad), (0x116b0, 0x116b5), (0x116b7, 0x116b7), (0x1171d, 0x1171f), (0x11722, 0x11725),
    (0x11727, 0x1172b), (0x1182f, 0x11837), (0x11839, 0x1183a), (0x1193b, 0x1193c), (0x1193e, 0x1193e), (0x11943, 0x11943)],
  [(0x119d4, 0x119d7), (0x119da, 0x119db), (0x119e0, 0x119e0), (0x11a01, 0x11a0a), (0x11a33, 0x11a38), (0x11a3b, 0x11a3e),
    (0x11a47, 0x11a47), (0x11a51, 0x11a56), (0x11a59, 0x11a5b), (0x11a8a, 0x11a96), (0x11a98, 0x11a99), (0x11c30, 0x11c36),
    (0x11c38, 0x11c3d), (0x11c3f, 0x11c3f), (0x11c92, 0x11ca7), (0x11caa, 0x11cb0), (0x11cb2, 0x11cb3), (0x11cb5, 0x11cb6),
    (0x11d31, 0x11d36), (0x11d3a, 0x11d3a), (0x11d3c, 0x11d3d), (0x11d3f, 0x11d45), (0x11d47, 0x11d47), (0x11d90, 0x11d91)],
  [(0x11d95, 0x11d95), (0x11d97, 0x11d97), (0x11ef3, 0x11ef4), (0x13430, 0x13438), (0x16af0, 0x16af4), (0x16b30, 0x16b36),
    (0x16b40, 0x16b43), (0x16f4f, 0x16f4f), (0x16f8f, 0x16f9f), (0x16fe0, 0x16fe1), (0x16fe3, 0x16fe4), (0x1aff0, 0x1aff3),
    (0x1aff5, 0x1affb), (0x1affd, 0x1affe), (0x1bc9d, 0x1bc9e), (0x1bca0, 0x1bca3), (0x1cf00, 0x1cf2d), (0x1cf30, 0x1cf46),
    (0x1d167, 0x1d169), (0x1d173, 0x1d182), (0x1d185, 0x1d18b), (0x1d1aa, 0x1d1ad), (0x1d242, 0x1d244), (0x1da00, 0x1da36)],
  [(0x1da3b, 0x1da6c), (0x1da75, 0x1da75), (0x1da84, 0x1da84), (0x1da9b, 0x1da9f), (0x1daa1, 0x1daaf), (0x1e000, 0x1e006),
    (0x1e008, 0x1e018), (0x1e01b, 0x1e021), (0x1e023, 0x1e024), (0x1e026, 0x1e02a), (0x1e130, 0x1e13d), (0x1e2ae, 0x1e2ae),
    (0x1e2ec, 0x1e2ef), (0x1e8d0, 0x1e8d6), (0x1e944, 0x1e94b), (0x1f3fb, 0x1f3ff), (0xe0001, 0xe0001), (0xe0020, 0xe007f),
    (0xe0100, 0xe01ef)]]

/-- The characters `str.isalnum` accepts, and `_`: those `\w` matches in a
`str` pattern. -/
def wordRanges : List (Nat × Nat) := List.flatten [
  [(0x30, 0x39), (0x41, 0x5a), (0x5f, 0x5f), (0x61, 0x7a), (0xaa, 0xaa), (0xb2, 0xb3),
    (0xb5, 0xb5), (0xb9, 0xba), (0xbc, 0xbe), (0xc0, 0xd6), (0xd8, 0xf6), (0xf8, 0x2c1),
    (0x2c6, 0x2d1), (0x2e0, 0x2e4), (0x2ec, 0x2ec), (0x2ee, 0x2ee), (0x370, 0x374), (0x376, 0x377),
    (0x37a, 0x37d), (0x37f, 0x37f), (0x386, 0x386), (0x388, 0x38a), (0x38c, 0x38c), (0x38e, 0x3a1)],
  [(0x3a3, 0x3f5), (0x3f7, 0x481), (0x48a, 0x52f), (0x531, 0x556), (0x559, 0x559), (0x560, 0x588),
    (0x5d0, 0x5ea), (0x5ef, 0x5f2), (0x620, 0x64a), (0x660, 0x669), (0x66e, 0x66f), (0x671, 0x6d3),
    (0x6d5, 0x6d5), (0x6e5, 0x6e6), (0x6ee, 0x6fc), (0x6ff, 0x6ff), (0x710, 0x710), (0x712, 0x72f),
    (0x74d, 0x7a5), (0x7b1, 0x7b1), (0x7c0, 0x7ea), (0x7f4, 0x7f5), (0x7fa, 0x7fa), (0x800, 0x815)],
  [(0x81a, 0x81a), (0x824, 0x824), (0x828, 0x828), (0x840, 0x858), (0x860, 0x86a), (0x870, 0x887),
    (0x889, 0x88e), (0x8a0, 0x8c9), (0x904, 0x939), (0x93d, 0x93d), (0x950, 0x950), (0x958, 0x961),
    (0x966, 0x96f), (0x971, 0x980), (0x985, 0x98c), (0x98f, 0x990), (0x993, 0x9a8), (0x9aa, 0x9b0),
    (0x9b2, 0x9b2), (0x9b6, 0x9b9), (0x9bd, 0x9bd), (0x9ce, 0x9ce), (0x9dc, 0x9dd), (0x9df, 0x9e1)],
  [(0x9e6, 0x9f1), (0x9f4, 0x9f9), (0x9fc, 0x9fc), (0xa05, 0xa0a), (0xa0f, 0xa10), (0xa13, 0xa28),
    (0xa2a, 0xa30), (0xa32, 0xa33), (0xa35, 0xa36), (0xa38, 0xa39), (0xa59, 0xa5c), (0xa5e, 0xa5e),
    (0xa66, 0xa6f), (0xa72, 0xa74), (0xa85, 0xa8d), (0xa8f, 0xa91), (0xa93, 0xaa8), (0xaaa, 0xab0),
    (0xab2, 0xab3), (0xab5, 0xab9), (0xabd, 0xabd), (0xad0, 0xad0), (0xae0, 0xae1), (0xae6, 0xaef)],
  [(0xaf9, 0xaf9), (0xb05, 0xb0c), (0xb0f, 0xb10), (0xb13, 0xb28), (0xb2a, 0xb30), (0xb32, 0xb33),
    (0xb35, 0xb39), (0xb3d, 0xb3d), (0xb5c, 0xb5d), (0xb5f, 0xb61), (0xb66, 0xb6f), (0xb71, 0xb77),
    (0xb83, 0xb83), (0xb85, 0xb8a), (0xb8e, 0xb90), (0xb92, 0xb95), (0xb99, 0xb9a), (0xb9c, 0xb9c),
    (0xb9e, 0xb9f), (0xba3, 0xba4), (0xba8, 0xbaa), (0xbae, 0xbb9), (0xbd0, 0xbd0), (0xbe6, 0xbf2)],
  [(0xc05, 0xc0c), (0xc0e, 0xc10), (0xc12, 0xc28), (0xc2a, 0xc39), (0xc3d, 0xc3d), (0xc58, 0xc5a),
    (0xc5d, 0xc5d), (0xc60, 0xc61), (0xc66, 0xc6f), (0xc78, 0xc7e), (0xc80, 0xc80), (0xc85, 0xc8c),
    (0xc8e, 0xc90), (0xc92, 0xca8), (0xcaa, 0xcb3), (0xcb5, 0xcb9), (0xcbd, 0xcbd), (0xcdd, 0xcde),
    (0xce0, 0xce1), (0xce6, 0xcef), (0xcf1, 0xcf2), (0xd04, 0xd0c), (0xd0e, 0xd10), (0xd12, 0xd3a)],
  [(0xd3d, 0xd3d), (0xd4e, 0xd4e), (0xd54, 0xd56), (0xd58, 0xd61), (0xd66, 0xd78), (0xd7a, 0xd7f),
    (0xd85, 0xd96), (0xd9a, 0xdb1), (0xdb3, 0xdbb), (0xdbd, 0xdbd), (0xdc0, 0xdc6), (0xde6, 0xdef),
    (0xe01, 0xe30), (0xe32, 0xe33), (0xe40, 0xe46), (0xe50, 0xe59), (0xe81, 0xe82), (0xe84, 0xe84),
    (0xe86, 0xe8a), (0xe8c, 0xea3), (0xea5, 0xea5), (0xea7, 0xeb0), (0xeb2, 0xeb3), (0xebd, 0xebd)],
  [(0xec0, 0xec4), (0xec6, 0xec6), (0xed0, 0xed9), (0xedc, 0xedf), (0xf00, 0xf00), (0xf20, 0xf33),
    (0xf40, 0xf47), (0xf49, 0xf6c), (0xf88, 0xf8c), (0x1000, 0x102a), (0x103f, 0x1049), (0x1050, 0x1055),
    (0x105a, 0x105d), (0x1061, 0x1061), (0x1065, 0x1066), (0x106e, 0x1070), (0x1075, 0x1081), (0x108e, 0x108e),
    (0x1090, 0x1099), (0x10a0, 0x10c5), (0x10c7, 0x10c7), (0x10cd, 0x10cd), (0x10d0, 0x10fa), (0x10fc, 0x1248)],
  [(0x124a, 0x124d), (0x1250, 0x1256), (0x1258, 0x1258), (0x125a, 0x125d), (0x1260, 0x1288), (0x128a, 0x128d),
    (0x1290, 0x12b0), (0x12b2, 0x12b5), (0x12b8, 0x12be), (0x12c0, 0x12c0), (0x12c2, 0x12c5), (0x12c8, 0x12d6),
    (0x12d8, 0x1310), (0x1312, 0x1315), (0x1318, 0x135a), (0x1369, 0x137c), (0x1380, 0x138f), (0x13a0, 0x13f5),
    (0x13f8, 0x13fd), (0x1401, 0x166c), (0x166f, 0x167f), (0x1681, 0x169a), (0x16a0, 0x16ea), (0x16ee, 0x16f8)],
  [(0x1700, 0x1711), (0x171f, 0x1731), (0x1740, 0x1751), (0x1760, 0x176c), (0x176e, 0x1770), (0x1780, 0x17b3),
    (0x17d7, 0x17d7), (0x17dc, 0x17dc), (0x17e0, 0x17e9), (0x17f0, 0x17f9), (0x1810, 0x1819), (0x1820, 0x1878),
    (0x1880, 0x1884), (0x1887, 0x18a8), (0x18aa, 0x18aa), (0x18b0, 0x18f5), (0x1900, 0x191e), (0x1946, 0x196d),
    (0x1970, 0x1974), (0x1980, 0x19ab), (0x19b0, 0x19c9), (0x19d0, 0x19da), (0x1a00, 0x1a16), (0x1a20, 0x1a54)],
  [(0x1a80, 0x1a89), (0x1a90, 0x1a99), (0x1aa7, 0x1aa7), (0x1b05, 0x1b33), (0x1b45, 0x1b4c), (0x1b50, 0x1b59),
    (0x1b83, 0x1ba0), (0x1bae, 0x1be5), (0x1c00, 0x1c23), (0x1c40, 0x1c49), (0x1c4d, 0x1c7d), (0x1c80, 0x1c88),
    (0x1c90, 0x1cba), (0x1cbd, 0x1cbf), (0x1ce9, 0x1cec), (0x1cee, 0x1cf3), (0x1cf5, 0x1cf6), (0x1cfa, 0x1cfa),
    (0x1d00, 0x1dbf), (0x1e00, 0x1f15), (0x1f18, 0x1f1d), (0x1f20, 0x1f45), (0x1f48, 0x1f4d), (0x1f50, 0x1f57)],
  [(0x1f59, 0x1f59), (0x1f5b, 0x1f5b), (0x1f5d, 0x1f5d), (0x1f5f, 0x1f7d), (0x1f80, 0x1fb4), (0x1fb6, 0x1fbc),
    (0x1fbe, 0x1fbe), (0x1fc2, 0x1fc4), (0x1fc6, 0x1fcc), (0x1fd0, 0x1fd3), (0x1fd6, 0x1fdb), (0x1fe0, 0x1fec),
    (0x1ff2, 0x1ff4), (0x1ff6, 0x1ffc), (0x2070, 0x2071), (0x2074, 0x2079), (0x207f, 0x2089), (0x2090, 0x209c),
    (0x2102, 0x2102), (0x2107, 0x2107), (0x210a, 0x2113), (0x2115, 0x2115), (0x2119, 0x211d), (0x2124, 0x2124)],
  [(0x2126, 0x2126), (0x2128, 0x2128), (0x212a, 0x212d), (0x212f, 0x2139), (0x213c, 0x213f), (0x2145, 0x2149),
    (0x214e, 0x214e), (0x2150, 0x2189), (0x2460, 0x249b), (0x24ea, 0x24ff), (0x2776, 0x2793), (0x2c00, 0x2ce4),
    (0x2ceb, 0x2cee), (0x2cf2, 0x2cf3), (0x2cfd, 0x2cfd), (0x2d00, 0x2d25), (0x2d27, 0x2d27), (0x2d2d, 0x2d2d),
    (0x2d30, 0x2d67), (0x2d6f, 0x2d6f), (0x2d80, 0x2d96), (0x2da0, 0x2da6), (0x2da8, 0x2dae), (0x2db0, 0x2db6)],
  [(0x2db8, 0x2dbe), (0x2dc0, 0x2dc6), (0x2dc8, 0x2dce), (0x2dd0, 0x2dd6), (0x2dd8, 0x2dde), (0x2e2f, 0x2e2f),
    (0x3005, 0x3007), (0x3021, 0x3029), (0x3031, 0x3035), (0x3038, 0x303c), (0x3041, 0x3096), (0x309d, 0x309f),
    (0x30a1, 0x30fa), (0x30fc, 0x30ff), (0x3105, 0x312f), (0x3131, 0x318e), (0x3192, 0x3195), (0x31a0, 0x31bf),
    (0x31f0, 0x31ff), (0x3220, 0x3229), (0x3248, 0x324f), (0x3251, 0x325f), (0x3280, 0x3289), (0x32b1, 0x32bf)],
  [(0x3400, 0x4dbf), (0x4e00, 0xa48c), (0xa4d0, 0xa4fd), (0xa500, 0xa60c), (0xa610, 0xa62b), (0xa640, 0xa66e),
    (0xa67f, 0xa69d), (0xa6a0, 0xa6ef), (0xa717, 0xa71f), (0xa722, 0xa788), (0xa78b, 0xa7ca), (0xa7d0, 0xa7d1),
    (0xa7d3, 0xa7d3), (0xa7d5, 0xa7d9), (0xa7f2, 0xa801), (0xa803, 0xa805), (0xa807, 0xa80a), (0xa80c, 0xa822),
    (0xa830, 0xa835), (0xa840, 0xa873), (0xa882, 0xa8b3), (0xa8d0, 0xa8d9), (0xa8f2, 0xa8f7), (0xa8fb, 0xa8fb)],
  [(0xa8fd, 0xa8fe), (0xa900, 0xa925), (0xa930, 0xa946), (0xa960, 0xa97c), (0xa984, 0xa9b2), (0xa9cf, 0xa9d9),
    (0xa9e0, 0xa9e4), (0xa9e6, 0xa9fe), (0xaa00, 0xaa28), (0xaa40, 0xaa42), (0xaa44, 0xaa4b), (0xaa50, 0xaa59),
    (0xaa60, 0xaa76), (0xaa7a, 0xaa7a), (0xaa7e, 0xaaaf), (0xaab1, 0xaab1), (0xaab5, 0xaab6), (0xaab9, 0xaabd),
    (0xaac0, 0xaac0), (0xaac2, 0xaac2), (0xaadb, 0xaadd), (0xaae0, 0xaaea), (0xaaf2, 0xaaf4), (0xab01, 0xab06)],
  [(0xab09, 0xab0e), (0xab11, 0xab16), (0xab20, 0xab26), (0xab28, 0xab2e), (0xab30, 0xab5a), (0xab5c, 0xab69),
    (0xab70, 0xabe2), (0xabf0, 0xabf9), (0xac00, 0xd7a3), (0xd7b0, 0xd7c6), (0xd7cb, 0xd7fb), (0xf900, 0xfa6d),
    (0xfa70, 0xfad9), (0xfb00, 0xfb06), (0xfb13, 0xfb17), (0xfb1d, 0xfb1d), (0xfb1f, 0xfb28), (0xfb2a, 0xfb36),
    (0xfb38, 0xfb3c), (0xfb3e, 0xfb3e), (0xfb40, 0xfb41), (0xfb43, 0xfb44), (0xfb46, 0xfbb1), (0xfbd3, 0xfd3d)],
  [(0xfd50, 0xfd8f), (0xfd92, 0xfdc7), (0xfdf0, 0xfdfb), (0xfe70, 0xfe74), (0xfe76, 0xfefc), (0xff10, 0xff19),
    (0xff21, 0xff3a), (0xff41, 0xff5a), (0xff66, 0xffbe), (0xffc2, 0xffc7), (0xffca, 0xffcf), (0xffd2, 0xffd7),
    (0xffda, 0xffdc), (0x10000, 0x1000b), (0x1000d, 0x10026), (0x10028, 0x1003a), (0x1003c, 0x1003d), (0x1003f, 0x1004d),
    (0x10050, 0x1005d), (0x10080, 0x100fa), (0x10107, 0x10133), (0x10140, 0x10178), (0x1018a, 0x1018b), (0x10280, 0x1029c)],
  [(0x102a0, 0x102d0), (0x102e1, 0x102fb), (0x10300, 0x10323), (0x1032d, 0x1034a), (0x10350, 0x10375), (0x10380, 0x1039d),
    (0x103a0, 0x103c3), (0x103c8, 0x103cf), (0x103d1, 0x103d5), (0x10400, 0x1049d), (0x104a0, 0x104a9), (0x104b0, 0x104d3),
    (0x104d8, 0x104fb), (0x10500, 0x10527), (0x10530, 0x10563), (0x10570, 0x1057a), (0x1057c, 0x1058a), (0x1058c, 0x10592),
    (0x10594, 0x10595), (0x10597, 0x105a1), (0x105a3, 0x105b1), (0x105b3, 0x105b9), (0x105bb, 0x105bc), (0x10600, 0x10736)],
  [(0x10740, 0x10755), (0x10760, 0x10767), (0x10780, 0x10785), (0x10787, 0x107b0), (0x107b2, 0x107ba), (0x10800, 0x10805),
    (0x10808, 0x10808), (0x1080a, 0x10835), (0x10837, 0x10838), (0x1083c, 0x1083c), (0x1083f, 0x10855), (0x10858, 0x10876),
    (0x10879, 0x1089e), (0x108a7, 0x108af), (0x108e0, 0x108f2), (0x108f4, 0x108f5), (0x108fb, 0x1091b), (0x10920, 0x10939),
    (0x10980, 0x109b7), (0x109bc, 0x109cf), (0x109d2, 0x10a00), (0x10a10, 0x10a13), (0x10a15, 0x10a17), (0x10a19, 0x10a35)],
  [(0x10a40, 0x10a48), (0x10a60, 0x10a7e), (0x10a80, 0x10a9f), (0x10ac0, 0x10ac7), (0x10ac9, 0x10ae4), (0x10aeb, 0x10aef),
    (0x10b00, 0x10b35), (0x10b40, 0x10b55), (0x10b58, 0x10b72), (0x10b78, 0x10b91), (0x10ba9, 0x10baf), (0x10c00, 0x10c48),
    (0x10c80, 0x10cb2), (0x10cc0, 0x10cf2), (0x10cfa, 0x10d23), (0x10d30, 0x10d39), (0x10e60, 0x10e7e), (0x10e80, 0x10ea9),
    (0x10eb0, 0x10eb1), (0x10f00, 0x10f27), (0x10f30, 0x10f45), (0x10f51, 0x10f54), (0x10f70, 0x10f81), (0x10fb0, 0x10fcb)],
  [(0x10fe0, 0x10ff6), (0x11003, 0x11037), (0x11052, 0x1106f), (0x11071, 0x11072), (0x11075, 0x11075), (0x11083, 0x110af),
    (0x110d0, 0x110e8), (0x110f0, 0x110f9), (0x11103, 0x11126), (0x11136, 0x1113f), (0x11144, 0x11144), (0x11147, 0x11147),
    (0x11150, 0x11172), (0x11176, 0x11176), (0x11183, 0x111b2), (0x111c1, 0x111c4), (0x111d0, 0x111da), (0x111dc, 0x111dc),
    (0x111e1, 0x111f4), (0x11200, 0x11211), (0x11213, 0x1122b), (0x11280, 0x11286), (0x11288, 0x11288), (0x1128a, 0x1128d)],
  [(0x1128f, 0x1129d), (0x1129f, 0x112a8), (0x112b0, 0x112de), (0x112f0, 0x112f9), (0x11305, 0x1130c), (0x1130f, 0x11310),
    (0x11313, 0x11328), (0x1132a, 0x11330), (0x11332, 0x11333), (0x11335, 0x11339), (0x1133d, 0x1133d), (0x11350, 0x11350),
    (0x1135d, 0x11361), (0x11400, 0x11434), (0x11447, 0x1144a), (0x11450, 0x11459), (0x1145f, 0x11461), (0x11480, 0x114af),
    (0x114c4, 0x114c5), (0x114c7, 0x114c7), (0x114d0, 0x114d9), (0x11580, 0x115ae), (0x115d8, 0x115db), (0x11600, 0x1162f)],
  [(0x11644, 0x11644), (0x11650, 0x11659), (0x11680, 0x116aa), (0x116b8, 0x116b8), (0x116c0, 0x116c9), (0x11700, 0x1171a),
    (0x11730, 0x1173b), (0x11740, 0x11746), (0x11800, 0x1182b), (0x118a0, 0x118f2), (0x118ff, 0x11906), (0x11909, 0x11909),
    (0x1190c, 0x11913), (0x11915, 0x11916), (0x11918, 0x1192f), (0x1193f, 0x1193f), (0x11941, 0x11941), (0x11950, 0x11959),
    (0x119a0, 0x119a7), (0x119aa, 0x119d0), (0x119e1, 0x119e1), (0x119e3, 0x119e3), (0x11a00, 0x11a00), (0x11a0b, 0x11a32)],
  [(0x11a3a, 0x11a3a), (0x11a50, 0x11a50), (0x11a5c, 0x11a89), (0x11a9d, 0x11a9d), (0x11ab0, 0x11af8), (0x11c00, 0x11c08),
    (0x11c0a, 0x11c2e), (0x11c40, 0x11c40), (0x11c50, 0x11c6c), (0x11c72, 0x11c8f), (0x11d00, 0x11d06), (0x11d08, 0x11d09),
    (0x11d0b, 0x11d30), (0x11d46, 0x11d46), (0x11d50, 0x11d59), (0x11d60, 0x11d65), (0x11d67, 0x11d68), (0x11d6a, 0x11d89),
    (0x11d98, 0x11d98), (0x11da0, 0x11da9), (0x11ee0, 0x11ef2), (0x11fb0, 0x11fb0), (0x11fc0, 0x11fd4), (0x12000, 0x12399)],
  [(0x12400, 0x1246e), (0x12480, 0x12543), (0x12f90, 0x12ff0), (0x13000, 0x1342e), (0x14400, 0x14646), (0x16800, 0x16a38),
    (0x16a40, 0x16a5e), (0x16a60, 0x16a69), (0x16a70, 0x16abe), (0x16ac0, 0x16ac9), (0x16ad0, 0x16aed), (0x16b00, 0x16b2f),
    (0x16b40, 0x16b43), (0x16b50, 0x16b59), (0x16b5b, 0x16b61), (0x16b63, 0x16b77), (0x16b7d, 0x16b8f), (0x16e40, 0x16e96),
    (0x16f00, 0x16f4a), (0x16f50, 0x16f50), (0x16f93, 0x16f9f), (0x16fe0, 0x16fe1), (0x16fe3, 0x16fe3), (0x17000, 0x187f7)],
  [(0x18800, 0x18cd5), (0x18d00, 0x18d08), (0x1aff0, 0x1aff3), (0x1aff5, 0x1affb), (0x1affd, 0x1affe), (0x1b000, 0x1b122),
    (0x1b150, 0x1b152), (0x1b164, 0x1b167), (0x1b170, 0x1b2fb), (0x1bc00, 0x1bc6a), (0x1bc70, 0x1bc7c), (0x1bc80, 0x1bc88),
    (0x1bc90, 0x1bc99), (0x1d2e0, 0x1d2f3), (0x1d360, 0x1d378), (0x1d400, 0x1d454), (0x1d456, 0x1d49c), (0x1d49e, 0x1d49f),
    (0x1d4a2, 0x1d4a2), (0x1d4a5, 0x1d4a6), (0x1d4a9, 0x1d4ac), (0x1d4ae, 0x1d4b9), (0x1d4bb, 0x1d4bb), (0x1d4bd, 0x1d4c3)],
  [(0x1d4c5, 0x1d505), (0x1d507, 0x1d50a), (0x1d50d, 0x1d514), (0x1d516, 0x1d51c), (0x1d51e, 0x1d539), (0x1d53b, 0x1d53e),
    (0x1d540, 0x1d544), (0x1d546, 0x1d546), (0x1d54a, 0x1d550), (0x1d552, 0x1d6a5), (0x1d6a8, 0x1d6c0), (0x1d6c2, 0x1d6da),
    (0x1d6dc, 0x1d6fa), (0x1d6fc, 0x1d714), (0x1d716, 0x1d734), (0x1d736, 0x1d74e), (0x1d750, 0x1d76e), (0x1d770, 0x1d788),
    (0x1d78a, 0x1d7a8), (0x1d7aa, 0x1d7c2), (0x1d7c4, 0x1d7cb), (0x1d7ce, 0x1d7ff), (0x1df00, 0x1df1e), (0x1e100, 0x1e12c)],
  [(0x1e137, 0x1e13d), (0x1e140, 0x1e149), (0x1e14e, 0x1e14e), (0x1e290, 0x1e2ad), (0x1e2c0, 0x1e2eb), (0x1e2f0, 0x1e2f9),
    (0x1e7e0, 0x1e7e6), (0x1e7e8, 0x1e7eb), (0x1e7ed, 0x1e7ee), (0x1e7f0, 0x1e7fe), (0x1e800, 0x1e8c4), (0x1e8c7, 0x1e8cf),
    (0x1e900, 0x1e943), (0x1e94b, 0x1e94b), (0x1e950, 0x1e959), (0x1ec71, 0x1ecab), (0x1ecad, 0x1ecaf), (0x1ecb1, 0x1ecb4),
    (0x1ed01, 0x1ed2d), (0x1ed2f, 0x1ed3d), (0x1ee00, 0x1ee03), (0x1ee05, 0x1ee1f), (0x1ee21, 0x1ee22), (0x1ee24, 0x1ee24)],
  [(0x1ee27, 0x1ee27), (0x1ee29, 0x1ee32), (0x1ee34, 0x1ee37), (0x1ee39, 0x1ee39), (0x1ee3b, 0x1ee3b), (0x1ee42, 0x1ee42),
    (0x1ee47, 0x1ee47), (0x1ee49, 0x1ee49), (0x1ee4b, 0x1ee4b), (0x1ee4d, 0x1ee4f), (0x1ee51, 0x1ee52), (0x1ee54, 0x1ee54),
    (0x1ee57, 0x1ee57), (0x1ee59, 0x1ee59), (0x1ee5b, 0x1ee5b), (0x1ee5d, 0x1ee5d), (0x1ee5f, 0x1ee5f), (0x1ee61, 0x1ee62),
    (0x1ee64, 0x1ee64), (0x1ee67, 0x1ee6a), (0x1ee6c, 0x1ee72), (0x1ee74, 0x1ee77), (0x1ee79, 0x1ee7c), (0x1ee7e, 0x1ee7e)],
  [(0x1ee80, 0x1ee89), (0x1ee8b, 0x1ee9b), (0x1eea1, 0x1eea3), (0x1eea5, 0x1eea9), (0x1eeab, 0x1eebb), (0x1f100, 0x1f10c),
    (0x1fbf0, 0x1fbf9), (0x20000, 0x2a6df), (0x2a700, 0x2b738), (0x2b740, 0x2b81d), (0x2b820, 0x2cea1), (0x2ceb0, 0x2ebe0),
    (0x2f800, 0x2fa1d), (0x30000, 0x3134a)]]

/-- The characters beyond Latin-1 that `str.isprintable` rejects, and `repr`
therefore escapes: separators other than the space, control and format
characters, surrogates, private use and unassigned code points. -/
def nonPrintableRanges : List (Nat × Nat) := List.flatten [
  [(0x378, 0x379), (0x380, 0x383), (0x38b, 0x38b), (0x38d, 0x38d), (0x3a2, 0x3a2), (0x530, 0x530),
    (0x557, 0x558), (0x58b, 0x58c), (0x590, 0x590), (0x5c8, 0x5cf), (0x5eb, 0x5ee), (0x5f5, 0x605),
    (0x61c, 0x61c), (0x6dd, 0x6dd), (0x70e, 0x70f), (0x74b, 0x74c), (0x7b2, 0x7bf), (0x7fb, 0x7fc),
    (0x82e, 0x82f), (0x83f, 0x83f), (0x85c, 0x85d), (0x85f, 0x85f), (0x86b, 0x86f), (0x88f, 0x897)],
  [(0x8e2, 0x8e2), (0x984, 0x984), (0x98d, 0x98e), (0x991, 0x992), (0x9a9, 0x9a9), (0x9b1, 0x9b1),
    (0x9b3, 0x9b5), (0x9ba, 0x9bb), (0x9c5, 0x9c6), (0x9c9, 0x9ca), (0x9cf, 0x9d6), (0x9d8, 0x9db),
    (0x9de, 0x9de), (0x9e4, 0x9e5), (0x9ff, 0xa00), (0xa04, 0xa04), (0xa0b, 0xa0e), (0xa11, 0xa12),
    (0xa29, 0xa29), (0xa31, 0xa31), (0xa34, 0xa34), (0xa37, 0xa37), (0xa3a, 0xa3b), (0xa3d, 0xa3d)],
  [(0xa43, 0xa46), (0xa49, 0xa4a), (0xa4e, 0xa50), (0xa52, 0xa58), (0xa5d, 0xa5d), (0xa5f, 0xa65),
    (0xa77, 0xa80), (0xa84, 0xa84), (0xa8e, 0xa8e), (0xa92, 0xa92), (0xaa9, 0xaa9), (0xab1, 0xab1),
    (0xab4, 0xab4), (0xaba, 0xabb), (0xac6, 0xac6), (0xaca, 0xaca), (0xace, 0xacf), (0xad1, 0xadf),
    (0xae4, 0xae5), (0xaf2, 0xaf8), (0xb00, 0xb00), (0xb04, 0xb04), (0xb0d, 0xb0e), (0xb11, 0xb12)],
  [(0xb29, 0xb29), (0xb31, 0xb31), (0xb34, 0xb34), (0xb3a, 0xb3b), (0xb45, 0xb46), (0xb49, 0xb4a),
    (0xb4e, 0xb54), (0xb58, 0xb5b), (0xb5e, 0xb5e), (0xb64, 0xb65), (0xb78, 0xb81), (0xb84, 0xb84),
    (0xb8b, 0xb8d), (0xb91, 0xb91), (0xb96, 0xb98), (0xb9b, 0xb9b), (0xb9d, 0xb9d), (0xba0, 0xba2),
    (0xba5, 0xba7), (0xbab, 0xbad), (0xbba, 0xbbd), (0xbc3, 0xbc5), (0xbc9, 0xbc9), (0xbce, 0xbcf)],
  [(0xbd1, 0xbd6), (0xbd8, 0xbe5), (0xbfb, 0xbff), (0xc0d, 0xc0d), (0xc11, 0xc11), (0xc29, 0xc29),
    (0xc3a, 0xc3b), (0xc45, 0xc45), (0xc49, 0xc49), (0xc4e, 0xc54), (0xc57, 0xc57), (0xc5b, 0xc5c),
    (0xc5e, 0xc5f), (0xc64, 0xc65), (0xc70, 0xc76), (0xc8d, 0xc8d), (0xc91, 0xc91), (0xca9, 0xca9),
    (0xcb4, 0xcb4), (0xcba, 0xcbb), (0xcc5, 0xcc5), (0xcc9, 0xcc9), (0xcce, 0xcd4), (0xcd7, 0xcdc)],
  [(0xcdf, 0xcdf), (0xce4, 0xce5), (0xcf0, 0xcf0), (0xcf3, 0xcff), (0xd0d, 0xd0d), (0xd11, 0xd11),
    (0xd45, 0xd45), (0xd49, 0xd49), (0xd50, 0xd53), (0xd64, 0xd65), (0xd80, 0xd80), (0xd84, 0xd84),
    (0xd97, 0xd99), (0xdb2, 0xdb2), (0xdbc, 0xdbc), (0xdbe, 0xdbf), (0xdc7, 0xdc9), (0xdcb, 0xdce),
    (0xdd5, 0xdd5), (0xdd7, 0xdd7), (0xde0, 0xde5), (0xdf0, 0xdf1), (0xdf5, 0xe00), (0xe3b, 0xe3e)],
  [(0xe5c, 0xe80), (0xe83, 0xe83), (0xe85, 0xe85), (0xe8b, 0xe8b), (0xea4, 0xea4), (0xea6, 0xea6),
    (0xebe, 0xebf), (0xec5, 0xec5), (0xec7, 0xec7), (0xece, 0xecf), (0xeda, 0xedb), (0xee0, 0xeff),
    (0xf48, 0xf48), (0xf6d, 0xf70), (0xf98, 0xf98), (0xfbd, 0xfbd), (0xfcd, 0xfcd), (0xfdb, 0xfff),
    (0x10c6, 0x10c6), (0x10c8, 0x10cc), (0x10ce, 0x10cf), (0x1249, 0x1249), (0x124e, 0x124f), (0x1257, 0x1257)],
  [(0x1259, 0x1259), (0x125e, 0x125f), (0x1289, 0x1289), (0x128e, 0x128f), (0x12b1, 0x12b1), (0x12b6, 0x12b7),
    (0x12bf, 0x12bf), (0x12c1, 0x12c1), (0x12c6, 0x12c7), (0x12d7, 0x12d7), (0x1311, 0x1311), (0x1316, 0x1317),
    (0x135b, 0x135c), (0x137d, 0x137f), (0x139a, 0x139f), (0x13f6, 0x13f7), (0x13fe, 0x13ff), (0x1680, 0x1680),
    (0x169d, 0x169f), (0x16f9, 0x16ff), (0x1716, 0x171e), (0x1737, 0x173f), (0x1754, 0x175f), (0x176d, 0x176d)],
  [(0x1771, 0x1771), (0x1774, 0x177f), (0x17de, 0x17df), (0x17ea, 0x17ef), (0x17fa, 0x17ff), (0x180e, 0x180e),
    (0x181a, 0x181f), (0x1879, 0x187f), (0x18ab, 0x18af), (0x18f6, 0x18ff), (0x191f, 0x191f), (0x192c, 0x192f),
    (0x193c, 0x193f), (0x1941, 0x1943), (0x196e, 0x196f), (0x1975, 0x197f), (0x19ac, 0x19af), (0x19ca, 0x19cf),
    (0x19db, 0x19dd), (0x1a1c, 0x1a1d), (0x1a5f, 0x1a5f), (0x1a7d, 0x1a7e), (0x1a8a, 0x1a8f), (0x1a9a, 0x1a9f)],
  [(0x1aae, 0x1aaf), (0x1acf, 0x1aff), (0x1b4d, 0x1b4f), (0x1b7f, 0x1b7f), (0x1bf4, 0x1bfb), (0x1c38, 0x1c3a),
    (0x1c4a, 0x1c4c), (0x1c89, 0x1c8f), (0x1cbb, 0x1cbc), (0x1cc8, 0x1ccf), (0x1cfb, 0x1cff), (0x1f16, 0x1f17),
    (0x1f1e, 0x1f1f), (0x1f46, 0x1f47), (0x1f4e, 0x1f4f), (0x1f58, 0x1f58), (0x1f5a, 0x1f5a), (0x1f5c, 0x1f5c),
    (0x1f5e, 0x1f5e), (0x1f7e, 0x1f7f), (0x1fb5, 0x1fb5), (0x1fc5, 0x1fc5), (0x1fd4, 0x1fd5), (0x1fdc, 0x1fdc)],
  [(0x1ff0, 0x1ff1), (0x1ff5, 0x1ff5), (0x1fff, 0x200f), (0x2028, 0x202f), (0x205f, 0x206f), (0x2072, 0x2073),
    (0x208f, 0x208f), (0x209d, 0x209f), (0x20c1, 0x20cf), (0x20f1, 0x20ff), (0x218c, 0x218f), (0x2427, 0x243f),
    (0x244b, 0x245f), (0x2b74, 0x2b75), (0x2b96, 0x2b96), (0x2cf4, 0x2cf8), (0x2d26, 0x2d26), (0x2d28, 0x2d2c),
    (0x2d2e, 0x2d2f), (0x2d68, 0x2d6e), (0x2d71, 0x2d7e), (0x2d97, 0x2d9f), (0x2da7, 0x2da7), (0x2daf, 0x2daf)],
  [(0x2db7, 0x2db7), (0x2dbf, 0x2dbf), (0x2dc7, 0x2dc7), (0x2dcf, 0x2dcf), (0x2dd7, 0x2dd7), (0x2ddf, 0x2ddf),
    (0x2e5e, 0x2e7f), (0x2e9a, 0x2e9a), (0x2ef4, 0x2eff), (0x2fd6, 0x2fef), (0x2ffc, 0x3000), (0x3040, 0x3040),
    (0x3097, 0x3098), (0x3100, 0x3104), (0x3130, 0x3130), (0x318f, 0x318f), (0x31e4, 0x31ef), (0x321f, 0x321f),
    (0xa48d, 0xa48f), (0xa4c7, 0xa4cf), (0xa62c, 0xa63f), (0xa6f8, 0xa6ff), (0xa7cb, 0xa7cf), (0xa7d2, 0xa7d2)],
  [(0xa7d4, 0xa7d4), (0xa7da, 0xa7f1), (0xa82d, 0xa82f), (0xa83a, 0xa83f), (0xa878, 0xa87f), (0xa8c6, 0xa8cd),
    (0xa8da, 0xa8df), (0xa954, 0xa95e), (0xa97d, 0xa97f), (0xa9ce, 0xa9ce), (0xa9da, 0xa9dd), (0xa9ff, 0xa9ff),
    (0xaa37, 0xaa3f), (0xaa4e, 0xaa4f), (0xaa5a, 0xaa5b), (0xaac3, 0xaada), (0xaaf7, 0xab00), (0xab07, 0xab08),
    (0xab0f, 0xab10), (0xab17, 0xab1f), (0xab27, 0xab27), (0xab2f, 0xab2f), (0xab6c, 0xab6f), (0xabee, 0xabef)],
  [(0xabfa, 0xabff), (0xd7a4, 0xd7af), (0xd7c7, 0xd7ca), (0xd7fc, 0xf8ff), (0xfa6e, 0xfa6f), (0xfada, 0xfaff),
    (0xfb07, 0xfb12), (0xfb18, 0xfb1c), (0xfb37, 0xfb37), (0xfb3d, 0xfb3d), (0xfb3f, 0xfb3f), (0xfb42, 0xfb42),
    (0xfb45, 0xfb45), (0xfbc3, 0xfbd2), (0xfd90, 0xfd91), (0xfdc8, 0xfdce), (0xfdd0, 0xfdef), (0xfe1a, 0xfe1f),
    (0xfe53, 0xfe53), (0xfe67, 0xfe67), (0xfe6c, 0xfe6f), (0xfe75, 0xfe75), (0xfefd, 0xff00), (0xffbf, 0xffc1)],
  [(0xffc8, 0xffc9), (0xffd0, 0xffd1), (0xffd8, 0xffd9), (0xffdd, 0xffdf), (0xffe7, 0xffe7), (0xffef, 0xfffb),
    (0xfffe, 0xffff), (0x1000c, 0x1000c), (0x10027, 0x10027), (0x1003b, 0x1003b), (0x1003e, 0x1003e), (0x1004e, 0x1004f),
    (0x1005e, 0x1007f), (0x100fb, 0x100ff), (0x10103, 0x10106), (0x10134, 0x10136), (0x1018f, 0x1018f), (0x1019d, 0x1019f),
    (0x101a1, 0x101cf), (0x101fe, 0x1027f), (0x1029d, 0x1029f), (0x102d1, 0x102df), (0x102fc, 0x102ff), (0x10324, 0x1032c)],
  [(0x1034b, 0x1034f), (0x1037b, 0x1037f), (0x1039e, 0x1039e), (0x103c4, 0x103c7), (0x103d6, 0x103ff), (0x1049e, 0x1049f),
    (0x104aa, 0x104af), (0x104d4, 0x104d7), (0x104fc, 0x104ff), (0x10528, 0x1052f), (0x10564, 0x1056e), (0x1057b, 0x1057b),
    (0x1058b, 0x1058b), (0x10593, 0x10593), (0x10596, 0x10596), (0x105a2, 0x105a2), (0x105b2, 0x105b2), (0x105ba, 0x105ba),
    (0x105bd, 0x105ff), (0x10737, 0x1073f), (0x10756, 0x1075f), (0x10768, 0x1077f), (0x10786, 0x10786), (0x107b1, 0x107b1)],
  [(0x107bb, 0x107ff), (0x10806, 0x10807), (0x10809, 0x10809), (0x10836, 0x10836), (0x10839, 0x1083b), (0x1083d, 0x1083e),
    (0x10856, 0x10856), (0x1089f, 0x108a6), (0x108b0, 0x108df), (0x108f3, 0x108f3), (0x108f6, 0x108fa), (0x1091c, 0x1091e),
    (0x1093a, 0x1093e), (0x10940, 0x1097f), (0x109b8, 0x109bb), (0x109d0, 0x109d1), (0x10a04, 0x10a04), (0x10a07, 0x10a0b),
    (0x10a14, 0x10a14), (0x10a18, 0x10a18), (0x10a36, 0x10a37), (0x10a3b, 0x10a3e), (0x10a49, 0x10a4f), (0x10a59, 0x10a5f)],
  [(0x10aa0, 0x10abf), (0x10ae7, 0x10aea), (0x10af7, 0x10aff), (0x10b36, 0x10b38), (0x10b56, 0x10b57), (0x10b73, 0x10b77),
    (0x10b92, 0x10b98), (0x10b9d, 0x10ba8), (0x10bb0, 0x10bff), (0x10c49, 0x10c7f), (0x10cb3, 0x10cbf), (0x10cf3, 0x10cf9),
    (0x10d28, 0x10d2f), (0x10d3a, 0x10e5f), (0x10e7f, 0x10e7f), (0x10eaa, 0x10eaa), (0x10eae, 0x10eaf), (0x10eb2, 0x10eff),
    (0x10f28, 0x10f2f), (0x10f5a, 0x10f6f), (0x10f8a, 0x10faf), (0x10fcc, 0x10fdf), (0x10ff7, 0x10fff), (0x1104e, 0x11051)],
  [(0x11076, 0x1107e), (0x110bd, 0x110bd), (0x110c3, 0x110cf), (0x110e9, 0x110ef), (0x110fa, 0x110ff), (0x11135, 0x11135),
    (0x11148, 0x1114f), (0x11177, 0x1117f), (0x111e0, 0x111e0), (0x111f5, 0x111ff), (0x11212, 0x11212), (0x1123f, 0x1127f),
    (0x11287, 0x11287), (0x11289, 0x11289), (0x1128e, 0x1128e), (0x1129e, 0x1129e), (0x112aa, 0x112af), (0x112eb, 0x112ef),
    (0x112fa, 0x112ff), (0x11304, 0x11304), (0x1130d, 0x1130e), (0x11311, 0x11312), (0x11329, 0x11329), (0x11331, 0x11331)],
  [(0x11334, 0x11334), (0x1133a, 0x1133a), (0x11345, 0x11346), (0x11349, 0x1134a), (0x1134e, 0x1134f), (0x11351, 0x11356),
    (0x11358, 0x1135c), (0x11364, 0x11365), (0x1136d, 0x1136f), (0x11375, 0x113ff), (0x1145c, 0x1145c), (0x11462, 0x1147f),
    (0x114c8, 0x114cf), (0x114da, 0x1157f), (0x115b6, 0x115b7), (0x115de, 0x115ff), (0x11645, 0x1164f), (0x1165a, 0x1165f),
    (0x1166d, 0x1167f), (0x116ba, 0x116bf), (0x116ca, 0x116ff), (0x1171b, 0x1171c), (0x1172c, 0x1172f), (0x11747, 0x117ff)],
  [(0x1183c, 0x1189f), (0x118f3, 0x118fe), (0x11907, 0x11908), (0x1190a, 0x1190b), (0x11914, 0x11914), (0x11917, 0x11917),
    (0x11936, 0x11936), (0x11939, 0x1193a), (0x11947, 0x1194f), (0x1195a, 0x1199f), (0x119a8, 0x119a9), (0x119d8, 0x119d9),
    (0x119e5, 0x119ff), (0x11a48, 0x11a4f), (0x11aa3, 0x11aaf), (0x11af9, 0x11bff), (0x11c09, 0x11c09), (0x11c37, 0x11c37),
    (0x11c46, 0x11c4f), (0x11c6d, 0x11c6f), (0x11c90, 0x11c91), (0x11ca8, 0x11ca8), (0x11cb7, 0x11cff), (0x11d07, 0x11d07)],
  [(0x11d0a, 0x11d0a), (0x11d37, 0x11d39), (0x11d3b, 0x11d3b), (0x11d3e, 0x11d3e), (0x11d48, 0x11d4f), (0x11d5a, 0x11d5f),
    (0x11d66, 0x11d66), (0x11d69, 0x11d69), (0x11d8f, 0x11d8f), (0x11d92, 0x11d92), (0x11d99, 0x11d9f), (0x11daa, 0x11edf),
    (0x11ef9, 0x11faf), (0x11fb1, 0x11fbf), (0x11ff2, 0x11ffe), (0x1239a, 0x123ff), (0x1246f, 0x1246f), (0x12475, 0x1247f),
    (0x12544, 0x12f8f), (0x12ff3, 0x12fff), (0x1342f, 0x143ff), (0x14647, 0x167ff), (0x16a39, 0x16a3f), (0x16a5f, 0x16a5f)],
  [(0x16a6a, 0x16a6d), (0x16abf, 0x16abf), (0x16aca, 0x16acf), (0x16aee, 0x16aef), (0x16af6, 0x16aff), (0x16b46, 0x16b4f),
    (0x16b5a, 0x16b5a), (0x16b62, 0x16b62), (0x16b78, 0x16b7c), (0x16b90, 0x16e3f), (0x16e9b, 0x16eff), (0x16f4b, 0x16f4e),
    (0x16f88, 0x16f8e), (0x16fa0, 0x16fdf), (0x16fe5, 0x16fef), (0x16ff2, 0x16fff), (0x187f8, 0x187ff), (0x18cd6, 0x18cff),
    (0x18d09, 0x1afef), (0x1aff4, 0x1aff4), (0x1affc, 0x1affc), (0x1afff, 0x1afff), (0x1b123, 0x1b14f), (0x1b153, 0x1b163)],
  [(0x1b168, 0x1b16f), (0x1b2fc, 0x1bbff), (0x1bc6b, 0x1bc6f), (0x1bc7d, 0x1bc7f), (0x1bc89, 0x1bc8f), (0x1bc9a, 0x1bc9b),
    (0x1bca0, 0x1ceff), (0x1cf2e, 0x1cf2f), (0x1cf47, 0x1cf4f), (0x1cfc4, 0x1cfff), (0x1d0f6, 0x1d0ff), (0x1d127, 0x1d128),
    (0x1d173, 0x1d17a), (0x1d1eb, 0x1d1ff), (0x1d246, 0x1d2df), (0x1d2f4, 0x1d2ff), (0x1d357, 0x1d35f), (0x1d379, 0x1d3ff),
    (0x1d455, 0x1d455), (0x1d49d, 0x1d49d), (0x1d4a0, 0x1d4a1), (0x1d4a3, 0x1d4a4), (0x1d4a7, 0x1d4a8), (0x1d4ad, 0x1d4ad)],
  [(0x1d4ba, 0x1d4ba), (0x1d4bc, 0x1d4bc), (0x1d4c4, 0x1d4c4), (0x1d506, 0x1d506), (0x1d50b, 0x1d50c), (0x1d515, 0x1d515),
    (0x1d51d, 0x1d51d), (0x1d53a, 0x1d53a), (0x1d53f, 0x1d53f), (0x1d545, 0x1d545), (0x1d547, 0x1d549), (0x1d551, 0x1d551),
    (0x1d6a6, 0x1d6a7), (0x1d7cc, 0x1d7cd), (0x1da8c, 0x1da9a), (0x1daa0, 0x1daa0), (0x1dab0, 0x1deff), (0x1df1f, 0x1dfff),
    (0x1e007, 0x1e007), (0x1e019, 0x1e01a), (0x1e022, 0x1e022), (0x1e025, 0x1e025), (0x1e02b, 0x1e0ff), (0x1e12d, 0x1e12f)],
  [(0x1e13e, 0x1e13f), (0x1e14a, 0x1e14d), (0x1e150, 0x1e28f), (0x1e2af, 0x1e2bf), (0x1e2fa, 0x1e2fe), (0x1e300, 0x1e7df),
    (0x1e7e7, 0x1e7e7), (0x1e7ec, 0x1e7ec), (0x1e7ef, 0x1e7ef), (0x1e7ff, 0x1e7ff), (0x1e8c5, 0x1e8c6), (0x1e8d7, 0x1e8ff),
    (0x1e94c, 0x1e94f), (0x1e95a, 0x1e95d), (0x1e960, 0x1ec70), (0x1ecb5, 0x1ed00), (0x1ed3e, 0x1edff), (0x1ee04, 0x1ee04),
    (0x1ee20, 0x1ee20), (0x1ee23, 0x1ee23), (0x1ee25, 0x1ee26), (0x1ee28, 0x1ee28), (0x1ee33, 0x1ee33), (0x1ee38, 0x1ee38)],
  [(0x1ee3a, 0x1ee3a), (0x1ee3c, 0x1ee41), (0x1ee43, 0x1ee46), (0x1ee48, 0x1ee48), (0x1ee4a, 0x1ee4a), (0x1ee4c, 0x1ee4c),
    (0x1ee50, 0x1ee50), (0x1ee53, 0x1ee53), (0x1ee55, 0x1ee56), (0x1ee58, 0x1ee58), (0x1ee5a, 0x1ee5a), (0x1ee5c, 0x1ee5c),
    (0x1ee5e, 0x1ee5e), (0x1ee60, 0x1ee60), (0x1ee63, 0x1ee63), (0x1ee65, 0x1ee66), (0x1ee6b, 0x1ee6b), (0x1ee73, 0x1ee73),
    (0x1ee78, 0x1ee78), (0x1ee7d, 0x1ee7d), (0x1ee7f, 0x1ee7f), (0x1ee8a, 0x1ee8a), (0x1ee9c, 0x1eea0), (0x1eea4, 0x1eea4)],
  [(0x1eeaa, 0x1eeaa), (0x1eebc, 0x1eeef), (0x1eef2, 0x1efff), (0x1f02c, 0x1f02f), (0x1f094, 0x1f09f), (0x1f0af, 0x1f0b0),
    (0x1f0c0, 0x1f0c0), (0x1f0d0, 0x1f0d0), (0x1f0f6, 0x1f0ff), (0x1f1ae, 0x1f1e5), (0x1f203, 0x1f20f), (0x1f23c, 0x1f23f),
    (0x1f249, 0x1f24f), (0x1f252, 0x1f25f), (0x1f266, 0x1f2ff), (0x1f6d8, 0x1f6dc), (0x1f6ed, 0x1f6ef), (0x1f6fd, 0x1f6ff),
    (0x1f774, 0x1f77f), (0x1f7d9, 0x1f7df), (0x1f7ec, 0x1f7ef), (0x1f7f1, 0x1f7ff), (0x1f80c, 0x1f80f), (0x1f848, 0x1f84f)],
  [(0x1f85a, 0x1f85f), (0x1f888, 0x1f88f), (0x1f8ae, 0x1f8af), (0x1f8b2, 0x1f8ff), (0x1fa54, 0x1fa5f), (0x1fa6e, 0x1fa6f),
    (0x1fa75, 0x1fa77), (0x1fa7d, 0x1fa7f), (0x1fa87, 0x1fa8f), (0x1faad, 0x1faaf), (0x1fabb, 0x1fabf), (0x1fac6, 0x1facf),
    (0x1fada, 0x1fadf), (0x1fae8, 0x1faef), (0x1faf7, 0x1faff), (0x1fb93, 0x1fb93), (0x1fbcb, 0x1fbef), (0x1fbfa, 0x1ffff),
    (0x2a6e0, 0x2a6ff), (0x2b739, 0x2b73f), (0x2b81e, 0x2b81f), (0x2cea2, 0x2ceaf), (0x2ebe1, 0x2f7ff), (0x2fa1e, 0x2ffff)],
  [(0x3134b, 0xe00ff), (0xe01f0, 0x10ffff)]]

end TfK8s.Py.Unicode
