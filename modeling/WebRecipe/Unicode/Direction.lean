import WebRecipe.Unicode.Category

/-!
# Directions and joining

How characters behave in a line of text: which way they run, and whether their shape joins that of their
neighbours. Only characters that may stand in a domain name are told apart. The tables belong to version
17.0 of the standard.
-/

namespace WebRecipe.Unicode

/-! ### Directions -/

/-- The way a character runs. -/
inductive Direction where
  /-- From left to right. -/
  | left
  /-- From right to left. -/
  | right
  /-- Digits that are written from left to right in every text. -/
  | number
  /-- Digits of texts from right to left. -/
  | arabicNumber
  /-- Signs that follow the text around them. -/
  | neutral
  /-- Marks that go with the character before. -/
  | mark
  deriving Repr, DecidableEq

/-- The characters that run from right to left. -/
def rightRanges : List CodeRange :=
  CodeRange.table (
    "5be 5c0 5c3 5c6 5d0-5ea 5ef-5f4 608 60b 60d 61b 61d-64a 66d-66f 671-674 679-6d5 6e5-6e6 " ++
    "6ee-6ef 6fa-70d 710 712-72f 74d-7a5 7b1 7c0-7ea 7f4-7f5 7fa 7fe-815 81a 824 828 830-83e " ++
    "840-858 85e 860-86a 870-88f 8a0-8c9 fbb2-fbc2 fe73 10800-10805 10808 1080a-10835 " ++
    "10837-10838 1083c 1083f-10855 10857-1089e 108a7-108af 108e0-108f2 108f4-108f5 108fb-1091b " ++
    "10920-10939 1093f-10959 10980-109b7 109bc-109cf 109d2-10a00 10a10-10a13 10a15-10a17 " ++
    "10a19-10a35 10a40-10a48 10a50-10a58 10a60-10a9f 10ac0-10ae4 10aeb-10af6 10b00-10b35 " ++
    "10b40-10b55 10b58-10b72 10b78-10b91 10b99-10b9c 10ba9-10baf 10c00-10c48 10cc0-10cf2 " ++
    "10cfa-10d23 10d4a-10d4f 10d6f-10d85 10d8e-10d8f 10e80-10ea9 10ead 10eb0-10eb1 10ec2-10ec7 " ++
    "10f00-10f27 10f30-10f45 10f51-10f59 10f70-10f81 10f86-10f89 10fb0-10fcb 10fe0-10ff6 " ++
    "1e800-1e8c4 1e8c7-1e8cf 1e922-1e943 1e94b 1e950-1e959 1e95e-1e95f 1ec71-1ecb4 1ed01-1ed3d")

/-- The digits that are written from left to right in every text. -/
def numberRanges : List CodeRange :=
  CodeRange.table "30-39 6f0-6f9 102e1-102fb"

/-- The digits of texts from right to left. -/
def arabicNumberRanges : List CodeRange :=
  CodeRange.table "660-669 66b-66c 10d30-10d39 10d40-10d49 10e60-10e7e"

/-- The signs that follow the text around them. -/
def neutralRanges : List CodeRange :=
  CodeRange.table (
    "21-2f 3a-40 5b-60 7b-7e a1-a7 a9 ab-ac ae b0-b1 b6-b7 bb bf d7 f7 2b9-2ba 2c2-2cf 2d2-2d7 " ++
    "2de-2df 2e5-2ed 2ef-2ff 375 3f6 58a 58d-58f 606-607 609-60a 60c 60e-60f 66a 6de 6e9 " ++
    "7f6-7f9 9f2-9f3 9fb af1 bf3-bfa c78-c7e e3f f3a-f3d 1390-1399 1400 169b-169c 17db " ++
    "17f0-17f9 1800-180a 1940 1944-1945 19de-19ff 200c-200d 2010 2012-2016 2018-2023 2027 " ++
    "2030-2032 2035 2038-203b 203d 203f-2046 204a-2056 2058-205e 20a0-20a7 20a9-20c1 2104 2108 " ++
    "2114 2117-2118 211e-211f 2123 2125 2127 2129 212e 213a 2141-2144 214a-214d 218a-218b " ++
    "2190-222b 222e 2231-2328 232b-2335 237b-2394 2396-2429 2440-244a 24eb-26ab 26ad-27ff " ++
    "2900-2a0b 2a0d-2a73 2a77-2adb 2add-2b73 2b76-2bff 2ce5-2cea 2cf9-2cff 2e00-2e5d 2e80-2e99 " ++
    "2e9b-2e9e 2ea0-2ef2 3001 3003-3004 3008-3020 3030 3037 303d-303f 30a0 30fb 31c0-31e5 " ++
    "4dc0-4dff a490-a4c6 a60d-a60f a673 a67e-a67f a700-a721 a788 a828-a82b a838-a839 a874-a877 " ++
    "ab6a-ab6b fbc3-fbd2 fd3e-fd4f fd90-fd91 fdc8-fdcf fdfd-fdff fe45-fe46 10101 10140-1018c " ++
    "10190-1019c 101a0 1091f 10b39-10b3f 10d6e 10ed0-10ed8 11052-11065 11660-1166c 11fd5-11ff1 " ++
    "16fe2 1cc00-1ccd5 1ccfa-1ccfc 1cd00-1ceb3 1ceba-1ced0 1cee0-1cef0 1d1e9-1d1ea 1d200-1d241 " ++
    "1d245 1d300-1d356 1e2ff 1eef0-1eef1 1f000-1f02b 1f030-1f093 1f0a0-1f0ae 1f0b1-1f0bf " ++
    "1f0c1-1f0cf 1f0d1-1f0f5 1f10b-1f10f 1f12f 1f16d-1f16f 1f1ad 1f260-1f265 1f300-1f6d8 " ++
    "1f6dc-1f6ec 1f6f0-1f6fc 1f700-1f7d9 1f7e0-1f7eb 1f7f0 1f800-1f80b 1f810-1f847 1f850-1f859 " ++
    "1f860-1f887 1f890-1f8ad 1f8b0-1f8bb 1f8c0-1f8c1 1f8d0-1f8d8 1f900-1fa57 1fa60-1fa6d " ++
    "1fa70-1fa7c 1fa80-1fa8a 1fa8e-1fac6 1fac8 1facd-1fadc 1fadf-1faea 1faef-1faf8 1fb00-1fb92 " ++
    "1fb94-1fbef 1fbfa")

/-- The marks that stand beside a character and run from left to right like it. -/
def besideMarks : List CodeRange :=
  CodeRange.table "cbf cc6 11a07-11a08 11c3f"

/-- The marks that take up no room. -/
def nonspacingRanges : List CodeRange :=
  CodeRange.normalize (rangesOf [.mn, .me] ++ addedTo [.mn])

/-- The way a character runs. -/
def direction (c : Char) : Direction :=
  let isIn (rs : List CodeRange) : Bool := CodeRange.anyContains rs c.toNat
  if isIn rightRanges then .right
  else if isIn numberRanges then .number
  else if isIn arabicNumberRanges then .arabicNumber
  else if isIn neutralRanges then .neutral
  else if isIn nonspacingRanges && !isIn besideMarks then .mark
  else .left

/-! ### Joining -/

/-- The characters that join both neighbours. -/
def joinsBoth : List CodeRange :=
  CodeRange.table (
    "620 626 628 62a-62e 633-63f 641-647 649-64a 66e-66f 679-687 69a-6bf 6c1-6c2 6cc 6ce " ++
    "6d0-6d1 6fa-6fc 6ff 712-714 71a-71d 71f-727 729 72b 72d-72e 74e-758 75c-76a 76d-770 772 " ++
    "775-777 77a-77f 7ca-7ea 841-845 848 84a-853 855 860 862-865 868 886 889-88d 88f 8a0-8a9 " ++
    "8af-8b0 8b3-8b8 8ba-8c8 1807 1820-1878 1887-18a8 18aa a840-a871 10ac0-10ac4 10ad3-10ad6 " ++
    "10ad8-10adc 10ade-10ae0 10aeb-10aee 10b80 10b82 10b86-10b88 10b8a-10b8b 10b8d 10b90 " ++
    "10bad-10bae 10d01-10d21 10d23 10ec3-10ec4 10ec6-10ec7 10f30-10f32 10f34-10f44 10f51-10f53 " ++
    "10f70-10f73 10f76-10f81 10fb0 10fb2-10fb3 10fb8 10fbb-10fbc 10fbe-10fbf 10fc1 10fc4 10fca " ++
    "1e922-1e943")

/-- The characters that join only the neighbour after them. -/
def joinsNext : List CodeRange :=
  CodeRange.table "a872 10acd 10ad7 10d00 10fcb"

/-- The characters that join only the neighbour before them. -/
def joinsPrevious : List CodeRange :=
  CodeRange.table (
    "622-625 627 629 62f-632 648 671-673 688-699 6c0 6c3-6cb 6cd 6cf 6d2-6d3 6d5 6ee-6ef 710 " ++
    "715-719 71e 728 72a 72c 72f 74d 759-75b 76b-76c 771 773-774 778-779 840 846-847 849 854 " ++
    "856-858 867 869-86a 870-882 88e 8aa-8ac 8ae 8b1-8b2 8b9 10ac5 10ac7 10ac9-10aca " ++
    "10ace-10ad2 10add 10ae1 10ae4 10aef 10b81 10b83-10b85 10b89 10b8c 10b8e-10b8f 10b91 " ++
    "10ba9-10bac 10d22 10ec2 10f33 10f54 10f74-10f75 10fb4-10fb6 10fb9-10fba 10fbd 10fc2-10fc3 " ++
    "10fc9")

/-- Whether a character joins the one after it. -/
def canJoinNext (c : Char) : Bool :=
  CodeRange.anyContains joinsBoth c.toNat || CodeRange.anyContains joinsNext c.toNat

/-- Whether a character joins the one before it. -/
def canJoinPrevious (c : Char) : Bool :=
  CodeRange.anyContains joinsBoth c.toNat || CodeRange.anyContains joinsPrevious c.toNat

/-- The marks and format characters. -/
def transparentRanges : List CodeRange :=
  CodeRange.normalize (nonspacingRanges ++ Category.cf.ranges)

/-- Whether a character does not matter for the joining of its neighbours: marks and format characters,
apart from those that decide about joining. -/
def isTransparent (c : Char) : Bool :=
  c.toNat == 0x1E94B ||
    (CodeRange.anyContains transparentRanges c.toNat && c.toNat != 0x200C && c.toNat != 0x200D)

end WebRecipe.Unicode
