import CypherLink.Text.Ranges

/-!
The direction in which the characters of a label are written, and the rule for labels that are
written from right to left or hold Arabic digits.
-/

namespace CypherLink.Host

/-- The classes, by their names in the standard: letters of the three kinds (`l`, `r`, `al`), digits
of the two kinds (`an`, `en`), separators, neutral characters and marks. -/
inductive Bidi where
  | l | r | al | an | en | es | on | bn | nsm
  deriving DecidableEq

namespace Bidi

/-- The characters of labels that are not letters written from left to right. -/
def table : Ranges.Keyed Bidi :=
  [(0x2d, 0x2d, .es), (0x30, 0x39, .en), (0xb7, 0xb7, .on), (0x2b9, 0x2ba, .on),
  (0x2c6, 0x2cf, .on), (0x2ec, 0x2ec, .on), (0x300, 0x33f, .nsm), (0x342, 0x342, .nsm),
  (0x346, 0x34e, .nsm), (0x350, 0x36f, .nsm), (0x375, 0x375, .on), (0x483, 0x487, .nsm),
  (0x591, 0x5bd, .nsm), (0x5bf, 0x5bf, .nsm), (0x5c1, 0x5c2, .nsm), (0x5c4, 0x5c5, .nsm),
  (0x5c7, 0x5c7, .nsm), (0x5d0, 0x5ea, .r), (0x5ef, 0x5f4, .r), (0x610, 0x61a, .nsm),
  (0x620, 0x63f, .al), (0x641, 0x64a, .al), (0x64b, 0x65f, .nsm), (0x660, 0x669, .an),
  (0x66e, 0x66f, .al), (0x670, 0x670, .nsm), (0x671, 0x674, .al), (0x679, 0x6d3, .al),
  (0x6d5, 0x6d5, .al), (0x6d6, 0x6dc, .nsm), (0x6df, 0x6e4, .nsm), (0x6e5, 0x6e6, .al),
  (0x6e7, 0x6e8, .nsm), (0x6ea, 0x6ed, .nsm), (0x6ee, 0x6ef, .al), (0x6f0, 0x6f9, .en),
  (0x6fa, 0x6ff, .al), (0x710, 0x710, .al), (0x711, 0x711, .nsm), (0x712, 0x72f, .al),
  (0x730, 0x74a, .nsm), (0x74d, 0x7a5, .al), (0x7a6, 0x7b0, .nsm), (0x7b1, 0x7b1, .al),
  (0x7c0, 0x7ea, .r), (0x7eb, 0x7f3, .nsm), (0x7f4, 0x7f5, .r), (0x7fd, 0x7fd, .nsm),
  (0x800, 0x815, .r), (0x816, 0x819, .nsm), (0x81a, 0x81a, .r), (0x81b, 0x823, .nsm),
  (0x824, 0x824, .r), (0x825, 0x827, .nsm), (0x828, 0x828, .r), (0x829, 0x82d, .nsm),
  (0x840, 0x858, .r), (0x859, 0x85b, .nsm), (0x860, 0x86a, .al), (0x870, 0x887, .al),
  (0x889, 0x88e, .al), (0x898, 0x89f, .nsm), (0x8a0, 0x8c9, .al), (0x8ca, 0x8e1, .nsm),
  (0x8e3, 0x902, .nsm), (0x93a, 0x93a, .nsm), (0x93c, 0x93c, .nsm), (0x941, 0x948, .nsm),
  (0x94d, 0x94d, .nsm), (0x951, 0x957, .nsm), (0x962, 0x963, .nsm), (0x981, 0x981, .nsm),
  (0x9bc, 0x9bc, .nsm), (0x9c1, 0x9c4, .nsm), (0x9cd, 0x9cd, .nsm), (0x9e2, 0x9e3, .nsm),
  (0x9fe, 0x9fe, .nsm), (0xa01, 0xa02, .nsm), (0xa3c, 0xa3c, .nsm), (0xa41, 0xa42, .nsm),
  (0xa47, 0xa48, .nsm), (0xa4b, 0xa4d, .nsm), (0xa51, 0xa51, .nsm), (0xa70, 0xa71, .nsm),
  (0xa75, 0xa75, .nsm), (0xa81, 0xa82, .nsm), (0xabc, 0xabc, .nsm), (0xac1, 0xac5, .nsm),
  (0xac7, 0xac8, .nsm), (0xacd, 0xacd, .nsm), (0xae2, 0xae3, .nsm), (0xafa, 0xaff, .nsm),
  (0xb01, 0xb01, .nsm), (0xb3c, 0xb3c, .nsm), (0xb3f, 0xb3f, .nsm), (0xb41, 0xb44, .nsm),
  (0xb4d, 0xb4d, .nsm), (0xb55, 0xb56, .nsm), (0xb62, 0xb63, .nsm), (0xb82, 0xb82, .nsm),
  (0xbc0, 0xbc0, .nsm), (0xbcd, 0xbcd, .nsm), (0xc00, 0xc00, .nsm), (0xc04, 0xc04, .nsm),
  (0xc3c, 0xc3c, .nsm), (0xc3e, 0xc40, .nsm), (0xc46, 0xc48, .nsm), (0xc4a, 0xc4d, .nsm),
  (0xc55, 0xc56, .nsm), (0xc62, 0xc63, .nsm), (0xc81, 0xc81, .nsm), (0xcbc, 0xcbc, .nsm),
  (0xccc, 0xccd, .nsm), (0xce2, 0xce3, .nsm), (0xd00, 0xd01, .nsm), (0xd3b, 0xd3c, .nsm),
  (0xd41, 0xd44, .nsm), (0xd4d, 0xd4d, .nsm), (0xd62, 0xd63, .nsm), (0xd81, 0xd81, .nsm),
  (0xdca, 0xdca, .nsm), (0xdd2, 0xdd4, .nsm), (0xdd6, 0xdd6, .nsm), (0xe31, 0xe31, .nsm),
  (0xe34, 0xe3a, .nsm), (0xe47, 0xe4e, .nsm), (0xeb1, 0xeb1, .nsm), (0xeb4, 0xebc, .nsm),
  (0xec8, 0xecd, .nsm), (0xf18, 0xf19, .nsm), (0xf35, 0xf35, .nsm), (0xf37, 0xf37, .nsm),
  (0xf39, 0xf39, .nsm), (0xf71, 0xf72, .nsm), (0xf74, 0xf74, .nsm), (0xf7a, 0xf7e, .nsm),
  (0xf80, 0xf80, .nsm), (0xf82, 0xf84, .nsm), (0xf86, 0xf87, .nsm), (0xf8d, 0xf92, .nsm),
  (0xf94, 0xf97, .nsm), (0xf99, 0xf9c, .nsm), (0xf9e, 0xfa1, .nsm), (0xfa3, 0xfa6, .nsm),
  (0xfa8, 0xfab, .nsm), (0xfad, 0xfb8, .nsm), (0xfba, 0xfbc, .nsm), (0xfc6, 0xfc6, .nsm),
  (0x102d, 0x1030, .nsm), (0x1032, 0x1037, .nsm), (0x1039, 0x103a, .nsm), (0x103d, 0x103e, .nsm),
  (0x1058, 0x1059, .nsm), (0x105e, 0x1060, .nsm), (0x1071, 0x1074, .nsm), (0x1082, 0x1082, .nsm),
  (0x1085, 0x1086, .nsm), (0x108d, 0x108d, .nsm), (0x109d, 0x109d, .nsm), (0x135d, 0x135f, .nsm),
  (0x1712, 0x1714, .nsm), (0x1732, 0x1733, .nsm), (0x1752, 0x1753, .nsm), (0x1772, 0x1773, .nsm),
  (0x17b7, 0x17bd, .nsm), (0x17c6, 0x17c6, .nsm), (0x17c9, 0x17d3, .nsm), (0x17dd, 0x17dd, .nsm),
  (0x1885, 0x1886, .nsm), (0x18a9, 0x18a9, .nsm), (0x1920, 0x1922, .nsm), (0x1927, 0x1928, .nsm),
  (0x1932, 0x1932, .nsm), (0x1939, 0x193b, .nsm), (0x1a17, 0x1a18, .nsm), (0x1a1b, 0x1a1b, .nsm),
  (0x1a56, 0x1a56, .nsm), (0x1a58, 0x1a5e, .nsm), (0x1a60, 0x1a60, .nsm), (0x1a62, 0x1a62, .nsm),
  (0x1a65, 0x1a6c, .nsm), (0x1a73, 0x1a7c, .nsm), (0x1a7f, 0x1a7f, .nsm), (0x1ab0, 0x1abd, .nsm),
  (0x1abf, 0x1ace, .nsm), (0x1b00, 0x1b03, .nsm), (0x1b34, 0x1b34, .nsm), (0x1b36, 0x1b3a, .nsm),
  (0x1b3c, 0x1b3c, .nsm), (0x1b42, 0x1b42, .nsm), (0x1b6b, 0x1b73, .nsm), (0x1b80, 0x1b81, .nsm),
  (0x1ba2, 0x1ba5, .nsm), (0x1ba8, 0x1ba9, .nsm), (0x1bab, 0x1bad, .nsm), (0x1be6, 0x1be6, .nsm),
  (0x1be8, 0x1be9, .nsm), (0x1bed, 0x1bed, .nsm), (0x1bef, 0x1bf1, .nsm), (0x1c2c, 0x1c33, .nsm),
  (0x1c36, 0x1c37, .nsm), (0x1cd0, 0x1cd2, .nsm), (0x1cd4, 0x1ce0, .nsm), (0x1ce2, 0x1ce8, .nsm),
  (0x1ced, 0x1ced, .nsm), (0x1cf4, 0x1cf4, .nsm), (0x1cf8, 0x1cf9, .nsm), (0x1dc0, 0x1dff, .nsm),
  (0x200c, 0x200d, .bn), (0x2cef, 0x2cf1, .nsm), (0x2d7f, 0x2d7f, .nsm), (0x2de0, 0x2dff, .nsm),
  (0x2e2f, 0x2e2f, .on), (0x302a, 0x302d, .nsm), (0x3099, 0x309a, .nsm), (0x30fb, 0x30fb, .on),
  (0xa66f, 0xa66f, .nsm), (0xa674, 0xa67d, .nsm), (0xa67f, 0xa67f, .on), (0xa69e, 0xa69f, .nsm),
  (0xa6f0, 0xa6f1, .nsm), (0xa717, 0xa71f, .on), (0xa788, 0xa788, .on), (0xa802, 0xa802, .nsm),
  (0xa806, 0xa806, .nsm), (0xa80b, 0xa80b, .nsm), (0xa825, 0xa826, .nsm), (0xa82c, 0xa82c, .nsm),
  (0xa8c4, 0xa8c5, .nsm), (0xa8e0, 0xa8f1, .nsm), (0xa8ff, 0xa8ff, .nsm), (0xa926, 0xa92d, .nsm),
  (0xa947, 0xa951, .nsm), (0xa980, 0xa982, .nsm), (0xa9b3, 0xa9b3, .nsm), (0xa9b6, 0xa9b9, .nsm),
  (0xa9bc, 0xa9bd, .nsm), (0xa9e5, 0xa9e5, .nsm), (0xaa29, 0xaa2e, .nsm), (0xaa31, 0xaa32, .nsm),
  (0xaa35, 0xaa36, .nsm), (0xaa43, 0xaa43, .nsm), (0xaa4c, 0xaa4c, .nsm), (0xaa7c, 0xaa7c, .nsm),
  (0xaab0, 0xaab0, .nsm), (0xaab2, 0xaab4, .nsm), (0xaab7, 0xaab8, .nsm), (0xaabe, 0xaabf, .nsm),
  (0xaac1, 0xaac1, .nsm), (0xaaec, 0xaaed, .nsm), (0xaaf6, 0xaaf6, .nsm), (0xabe5, 0xabe5, .nsm),
  (0xabe8, 0xabe8, .nsm), (0xabed, 0xabed, .nsm), (0xfb1e, 0xfb1e, .nsm), (0xfe20, 0xfe2f, .nsm),
  (0xfe73, 0xfe73, .al), (0x101fd, 0x101fd, .nsm), (0x102e0, 0x102e0, .nsm),
  (0x10376, 0x1037a, .nsm), (0x10800, 0x10805, .r), (0x10808, 0x10808, .r), (0x1080a, 0x10835, .r),
  (0x10837, 0x10838, .r), (0x1083c, 0x1083c, .r), (0x1083f, 0x10855, .r), (0x10860, 0x10876, .r),
  (0x10880, 0x1089e, .r), (0x108e0, 0x108f2, .r), (0x108f4, 0x108f5, .r), (0x10900, 0x10915, .r),
  (0x10920, 0x10939, .r), (0x10980, 0x109b7, .r), (0x109be, 0x109bf, .r), (0x10a00, 0x10a00, .r),
  (0x10a01, 0x10a03, .nsm), (0x10a05, 0x10a06, .nsm), (0x10a0c, 0x10a0f, .nsm),
  (0x10a10, 0x10a13, .r), (0x10a15, 0x10a17, .r), (0x10a19, 0x10a35, .r), (0x10a38, 0x10a3a, .nsm),
  (0x10a3f, 0x10a3f, .nsm), (0x10a60, 0x10a7c, .r), (0x10a80, 0x10a9c, .r), (0x10ac0, 0x10ac7, .r),
  (0x10ac9, 0x10ae4, .r), (0x10ae5, 0x10ae6, .nsm), (0x10b00, 0x10b35, .r), (0x10b40, 0x10b55, .r),
  (0x10b60, 0x10b72, .r), (0x10b80, 0x10b91, .r), (0x10c00, 0x10c48, .r), (0x10cc0, 0x10cf2, .r),
  (0x10d00, 0x10d23, .al), (0x10d24, 0x10d27, .nsm), (0x10d30, 0x10d39, .an),
  (0x10e80, 0x10ea9, .r), (0x10eab, 0x10eac, .nsm), (0x10eb0, 0x10eb1, .r), (0x10f00, 0x10f1c, .r),
  (0x10f27, 0x10f27, .r), (0x10f30, 0x10f45, .al), (0x10f46, 0x10f50, .nsm), (0x10f70, 0x10f81, .r),
  (0x10f82, 0x10f85, .nsm), (0x10fb0, 0x10fc4, .r), (0x10fe0, 0x10ff6, .r),
  (0x11001, 0x11001, .nsm), (0x11038, 0x11046, .nsm), (0x11070, 0x11070, .nsm),
  (0x11073, 0x11074, .nsm), (0x1107f, 0x11081, .nsm), (0x110b3, 0x110b6, .nsm),
  (0x110b9, 0x110ba, .nsm), (0x110c2, 0x110c2, .nsm), (0x11100, 0x11102, .nsm),
  (0x11127, 0x1112b, .nsm), (0x1112d, 0x11134, .nsm), (0x11173, 0x11173, .nsm),
  (0x11180, 0x11181, .nsm), (0x111b6, 0x111be, .nsm), (0x111c9, 0x111cc, .nsm),
  (0x111cf, 0x111cf, .nsm), (0x1122f, 0x11231, .nsm), (0x11234, 0x11234, .nsm),
  (0x11236, 0x11237, .nsm), (0x1123e, 0x1123e, .nsm), (0x112df, 0x112df, .nsm),
  (0x112e3, 0x112ea, .nsm), (0x11300, 0x11301, .nsm), (0x1133b, 0x1133c, .nsm),
  (0x11340, 0x11340, .nsm), (0x11366, 0x1136c, .nsm), (0x11370, 0x11374, .nsm),
  (0x11438, 0x1143f, .nsm), (0x11442, 0x11444, .nsm), (0x11446, 0x11446, .nsm),
  (0x1145e, 0x1145e, .nsm), (0x114b3, 0x114b8, .nsm), (0x114ba, 0x114ba, .nsm),
  (0x114bf, 0x114c0, .nsm), (0x114c2, 0x114c3, .nsm), (0x115b2, 0x115b5, .nsm),
  (0x115bc, 0x115bd, .nsm), (0x115bf, 0x115c0, .nsm), (0x115dc, 0x115dd, .nsm),
  (0x11633, 0x1163a, .nsm), (0x1163d, 0x1163d, .nsm), (0x1163f, 0x11640, .nsm),
  (0x116ab, 0x116ab, .nsm), (0x116ad, 0x116ad, .nsm), (0x116b0, 0x116b5, .nsm),
  (0x116b7, 0x116b7, .nsm), (0x1171d, 0x1171f, .nsm), (0x11722, 0x11725, .nsm),
  (0x11727, 0x1172b, .nsm), (0x1182f, 0x11837, .nsm), (0x11839, 0x1183a, .nsm),
  (0x1193b, 0x1193c, .nsm), (0x1193e, 0x1193e, .nsm), (0x11943, 0x11943, .nsm),
  (0x119d4, 0x119d7, .nsm), (0x119da, 0x119db, .nsm), (0x119e0, 0x119e0, .nsm),
  (0x11a01, 0x11a06, .nsm), (0x11a09, 0x11a0a, .nsm), (0x11a33, 0x11a38, .nsm),
  (0x11a3b, 0x11a3e, .nsm), (0x11a47, 0x11a47, .nsm), (0x11a51, 0x11a56, .nsm),
  (0x11a59, 0x11a5b, .nsm), (0x11a8a, 0x11a96, .nsm), (0x11a98, 0x11a99, .nsm),
  (0x11c30, 0x11c36, .nsm), (0x11c38, 0x11c3d, .nsm), (0x11c92, 0x11ca7, .nsm),
  (0x11caa, 0x11cb0, .nsm), (0x11cb2, 0x11cb3, .nsm), (0x11cb5, 0x11cb6, .nsm),
  (0x11d31, 0x11d36, .nsm), (0x11d3a, 0x11d3a, .nsm), (0x11d3c, 0x11d3d, .nsm),
  (0x11d3f, 0x11d45, .nsm), (0x11d47, 0x11d47, .nsm), (0x11d90, 0x11d91, .nsm),
  (0x11d95, 0x11d95, .nsm), (0x11d97, 0x11d97, .nsm), (0x11ef3, 0x11ef4, .nsm),
  (0x16af0, 0x16af4, .nsm), (0x16b30, 0x16b36, .nsm), (0x16f4f, 0x16f4f, .nsm),
  (0x16f8f, 0x16f92, .nsm), (0x16fe4, 0x16fe4, .nsm), (0x1bc9d, 0x1bc9e, .nsm),
  (0x1cf00, 0x1cf2d, .nsm), (0x1cf30, 0x1cf46, .nsm), (0x1da00, 0x1da36, .nsm),
  (0x1da3b, 0x1da6c, .nsm), (0x1da75, 0x1da75, .nsm), (0x1da84, 0x1da84, .nsm),
  (0x1da9b, 0x1da9f, .nsm), (0x1daa1, 0x1daaf, .nsm), (0x1e000, 0x1e006, .nsm),
  (0x1e008, 0x1e018, .nsm), (0x1e01b, 0x1e021, .nsm), (0x1e023, 0x1e024, .nsm),
  (0x1e026, 0x1e02a, .nsm), (0x1e130, 0x1e136, .nsm), (0x1e2ae, 0x1e2ae, .nsm),
  (0x1e2ec, 0x1e2ef, .nsm), (0x1e800, 0x1e8c4, .r), (0x1e8d0, 0x1e8d6, .nsm),
  (0x1e922, 0x1e943, .r), (0x1e944, 0x1e94a, .nsm), (0x1e94b, 0x1e94b, .r), (0x1e950, 0x1e959, .r)]

def of (c : Char) : Bidi := (Ranges.Keyed.get? table c).getD .l

/-- The classes that bring a label under the rule. -/
def isRightward (b : Bidi) : Bool := b = .r || b = .al || b = .an

/-- A label from right to left ends in a letter or a digit, marks aside. -/
def endsWell (bs : List Bidi) : Bool :=
  (bs.reverse.dropWhile (· = .nsm)).head?.any fun b => b.isRightward || b = .en

end Bidi

/-- How a label breaks the rule. Places count from one. -/
inductive BidiFault where
  | first
  | turned (place : Nat) (rightToLeft : Bool)
  | mixedDigits
  | ending
  deriving DecidableEq

namespace Bidi

/-- The first fault inside a label from right to left; `digits` is the kind of digit met so far. -/
def rightFault? (place : Nat) (digits : Option Bidi) : List Bidi → Option BidiFault
  | [] => none
  | b :: rest =>
    if b = .l then some (.turned place true)
    else if b = .an || b = .en then
      if digits.any (· ≠ b) then some .mixedDigits else rightFault? (place + 1) (some b) rest
    else rightFault? (place + 1) digits rest

def fault? (label : List Char) : Option BidiFault :=
  let bs := label.map Bidi.of
  match bs.findIdx? isRightward with
  | none => none
  | some i =>
    match bs.head? with
    | some .l => some (.turned (i + 1) false)
    | some .r | some .al =>
      (rightFault? 1 none bs).or (if endsWell bs then none else some .ending)
    | _ => some .first

theorem fault?_of_not_rightward (label : List Char)
    (h : ∀ c ∈ label, (Bidi.of c).isRightward = false) : fault? label = none := by
  have : (label.map Bidi.of).findIdx? isRightward = none := by
    simpa [List.findIdx?_eq_none_iff] using h
  simp [fault?, this]

end Bidi

end CypherLink.Host
