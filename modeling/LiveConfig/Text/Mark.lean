import LiveConfig.Text.Runs

/-!
# Combining marks

The characters of Unicode 17 that combine with the one before them, and the classes by which several
marks behind one character are put in order.
-/

namespace LiveConfig.Text.Mark

/-! ## §1 Kinds of marks -/

/-- The marks: `N` takes no room, and neither does `L`, which runs from left to right, `S` takes
room, and `T` is a letter that is passed over in joined writing. -/
def kinds : List Run := Run.readAll
  ["300U 71N 112U 8N 106U 2dN 1U 1N 1U 2N 1U 2N 1U 9N 40U bN 30U 15N 10U 1N 65U 8N 1U 6N 2U 2N 1U",
   "4N 23U 1N 1eU 1dN 59U bN 3aU 9N 9U 1N 18U 4N 1U 9N 1U 3N 1U 7N 29U 5N 39U 9N 2aU 39N 1S 36U 1N",
   "1S 1N 1U 3S 8N 4S 1N 2S 1U fN 2U 2N 1dU 1N 3S 37U 1N 1U 3S 6N 6S 1N 9U 9S 2U 4N 18U 5N 2S 37U",
   "2N 3S 1bN 14U 2N 3U 1N bU 2N 2S 37U 1N 1U 3S 8N 4S 3N 12U 4N 14U 8N 3S 37U 1N 1U 1S 1N 1S 6N",
   "6S aN 8S 3U 4N 1cU 1N 3bU 2S 1N cS 3N 7U fS 1aU 1N 3S 1N 37U 1N 1U 3N 5S 12N aU 4N 1bU 1N 2S",
   "38U 1N 1U 1S 1L 6S 1L 5S 9N 7S 6U 4N dU dS 2N 2S 37U 2N 1U 3S 5N 7S 1N 9U 1S aU 4N 1bU 1N 3S",
   "45U 5N 3S 6N eS cU 2S 3dU 1N 2U bN 8U 8N 62U 1N 2U 9N bU 8N 48U 2N 1bU 1N 1U 1N 1U 1N 4U 2S",
   "31U eN 1S 5N 1U 2N 5U 31N 8U 1N 64U 2S 4N 1S 6N 1S 2N 2S 2N 17U 2S 2N 4U 3N 1U 3S 2U 7S 3U 4N",
   "dU 1N 2S 2N 6S 1N 1U 1S aU 3S 1N 2bfU 3N 3b2U 3N aS 13U 2N 1S 1dU eN 12U eN 36U 1S 7N 8S 1N 2S",
   "bN 9U 3N a5U 2N 22U 1N 76U 3N 4S 2N 9S 1N 6S 7N d7U 2N 2S 3N 37U 1S 1N 1S 9N 1S 1N 2S 8N 6S dN",
   "30U 54N 1S 2fU 1N 1S 5N 1S 1N 5S 1N 2S 26U 9N cU 2N 1S 1eU 1S 4N 2S 2N 1S 3N 38U 1N 1S 2N 3S",
   "1N 1S 3N aS 28U 8S 8N 2S 5N 95U 3N 1U dN 1S 7N 4U 1N 6U 1N 2U 1S 2N c6U 41N 2cfU 34N bebU 4N",
   "8cU 1N 60U 20N 22aU 4N 2S 69U 4N 75d2U 4N 1U aN 20U 2N 50U 2N 110U 1N 3U 1N 4U 1N 17U 2S 2N 1S",
   "4U 4N 50U 2S 32U 10S aN 12U 12N dU 1N 26U 8N 19U bN dS 21U 3N 1S 2fU 1N 2S 4N 2S 2N 3S 24U 1N",
   "43U 6N 2S 2N 2S bN 3U 1N 8U 1N 3S 2bU 1S 1N 1S 32U 1N 1U 3N 2U 2N 5U 2N 1U 1N 29U 1S 2N 2S 5U",
   "1S bN e2U 2S 1N 2S 1N 2S 1U 1S 3N 4f2eU 94N 26eU 25N 3b8U 83N 60U 1N 95U aN 681U fN 28U 8N a5U",
   "6N 239U cN 39U 5N 13dU 2N 4dU 6N 46U bN 31U 4N 7aU 1S 1N 1S 35U fN 29U 1N 2U 2N aU 3N 1S 2dU",
   "3S 4N 2S 2N 7U eN 30U 3N 24U 5N 1S 9N fU 2S 2cU 1N cU 2N 1S 30U 3S 9N 2S 8U 4N 1U 1S 1N 5cU 3S",
   "3N 2S 1N 1S 2N 6U 1N 2U 3fN 5fU 1N 3S dN 10U 2N 3S 36U 2N 1U 2S 1N fS 7U 6S 5U 4S 1aN 38U 3S",
   "7N cS 1N 1S 1N 1U 1N eU 1fN 35U 3S 8N 2S 3N 1S 1N 17U 1N 51U 3S 6N 1S 1N 4S 2N 1S 2N ebU 3S 6N",
   "4S 2N 1S 2N 1bU 24N 30U 3S 8N 2S 1N 1S 2N 6aU 1N 1S 1N 2S 6N 1S 1N 65U 1N 1S 1N 2S 4N 1S 9N",
   "fcU 3S 9N 1S 2N f5U bS 2N 1S 1N 1U 1S 1U 1S 1N 8dU 3S 8N 4S 1N 3U 1cS 1U 6N 2L 2N 28U 6N 1S 1U",
   "4N 8U 9N 1U 6N 2S 3N 2eU dN 1S 2N c6U 1N 1S 3N 1S 1N 59S 6fU 1S eN 1S 1L 52U 17N 1S 7N 1S 2N",
   "1S 4bN 31U 15N 1U 9N 3aU 6S 3N 2S 1N 1S 1N 15bU 2N 2S 9U 2N 1U 1S 30U 2S 8N 2S 1N 1S 1N 17U",
   "56N 1490U 1N 6U 19N 2cbeU cN 3S 3N 9c0U 5N 3bU 7N 418U 1N 1U 3eS 4N 51U cN 2S 4cabU 2N 1261U",
   "50N 215U 2S 3N 3U eS 8N 2U 7N 1eU 4N 94U 3N 7bbU 37N 4U 32N 8U 1N eU 1N 16U 465N 100U 100N 30U",
   "7N 177U 12N 2cU 4N 1fcU 4N feU 2N f3U 1N 2U 1N 7U 2N 5U 9N 1d2U 52N 22U 7N 5T f16b0U"]

/-- Whether a character is a mark. -/
def isMark (c : Char) : Bool :=
  match Run.letterOf kinds c with
  | 'N' | 'L' | 'S' => true
  | _ => false

/-- Whether a character has the direction of the one before it. -/
def isNonspacing (c : Char) : Bool := Run.letterOf kinds c == 'N'

/-- Whether a character is passed over in joined writing. -/
def isTransparent (c : Char) : Bool :=
  match Run.letterOf kinds c with
  | 'N' | 'L' | 'T' => true
  | _ => false

/-! ## §2 Classes -/

/-- The classes of the marks that have one. -/
def classes : List Run := Run.readAll
  ["300U 15Ke6 1Ke8 4Kdc 1Ke8 1Kd8 5Kdc 2Kca 4Kdc 2Kca bKdc 5K1 4Kdc 3Ke6 2U 1Ke6 2U 1Kf0 1Ke6",
   "3Kdc 3Ke6 2Kdc 1U 3Ke6 4Kdc 1Ke6 1Ke8 2Kdc 1Ke6 1Ke9 2Kea 1Ke9 2Kea 1Ke9 dKe6 113U 5Ke6 109U",
   "1Kdc 4Ke6 1Kdc 3Ke6 1Kde 1Kdc 6Ke6 6Kdc 2Ke6 1Kdc 2Ke6 1Kde 1Ke4 1Ke6 1Ka 1Kb 1Kc 1Kd 1Ke 1Kf",
   "1K10 1K11 1K12 2K13 1K14 1K15 1K16 1U 1K17 1U 1K18 1K19 1U 1Ke6 1Kdc 1U 1K12 48U 8Ke6 1K1e",
   "1K1f 1K20 30U 1K1b 1K1c 1K1d 1K1e 1K1f 1K20 1K21 1K22 2Ke6 2Kdc 5Ke6 1Kdc 2Ke6 1Kdc 10U 1K23",
   "65U 7Ke6 2U 4Ke6 1Kdc 1Ke6 2U 2Ke6 1U 1Kdc 2Ke6 1Kdc 23U 1K24 1eU 1Ke6 1Kdc 2Ke6 1Kdc 2Ke6",
   "3Kdc 1Ke6 2Kdc 1Ke6 1Kdc 3Ke6 1Kdc 1Ke6 1Kdc 1Ke6 1Kdc 1Ke6 1Kdc 2Ke6 a0U 7Ke6 1Kdc 1Ke6 9U",
   "1Kdc 18U 4Ke6 1U 9Ke6 1U 3Ke6 1U 5Ke6 2bU 3Kdc 3bU 2Ke6 3Kdc 4Ke6 2aU 5Ke6 5Kdc eKe6 1U 1Kdc",
   "2Ke6 1Kdc 2Ke6 1Kdc 3Ke6 3Kdc 1K1b 1K1c 1K1d 3Ke6 1Kdc 2Ke6 2Kdc 5Ke6 3cU 1K7 10U 1K9 3U 1Ke6",
   "1Kdc 2Ke6 67U 1K7 10U 1K9 30U 1Ke6 3dU 1K7 10U 1K9 6eU 1K7 10U 1K9 6eU 1K7 10U 1K9 7fU 1K9 6eU",
   "1K7 10U 1K9 7U 1K54 1K5b 65U 1K7 10U 1K9 6dU 2K9 10U 1K9 7cU 1K9 6dU 2K67 1K9 dU 4K6b 6cU 2K76",
   "1K9 dU 4K7a 4cU 2Kdc 1bU 1Kdc 1U 1Kdc 1U 1Kd8 37U 1K81 1K82 1U 1K84 5U 4K82 2U 1K82 1U 2Ke6",
   "1K9 1U 2Ke6 3eU 1Kdc 70U 1K7 1U 2K9 52U 1Kdc 2cfU 3Ke6 3b4U 2K9 1eU 1K9 9dU 1K9 aU 1Ke6 cbU",
   "1Ke4 8fU 1Kde 1Ke6 1Kdc dbU 1Ke6 1Kdc 47U 1K9 14U 8Ke6 2U 1Kdc 30U 5Ke6 6Kdc 2Ke6 1Kdc 1U 2Kdc",
   "2Ke6 2Kdc 5Ke6 1Kdc 12Ke6 1Kdc 2U 6Ke6 1Kdc 4Ke6 1Kea 48U 1K7 fU 1K9 26U 1Ke6 1Kdc 7Ke6 36U",
   "2K9 3aU 1K7 bU 2K9 43U 1K7 98U 3Ke6 1U 1K1 5Kdc 2Ke6 4Kdc 1Ke6 1U 7K1 4U 1Kdc 6U 1Ke6 3U 2Ke6",
   "c6U 2Ke6 1Kdc 7Ke6 1Kdc 2Ke6 1Kea 1Kd6 1Kdc 1Kca 25Ke6 1Ke8 2Ke4 1Kdc 1Kda 1Ke6 1Ke9 1Kdc 1Ke6",
   "1Kdc 2d0U 2Ke6 2K1 4Ke6 3K1 2Ke6 4U 1Ke6 3U 2K1 1Ke6 1Kdc 1Ke6 2K1 4Kdc 1Ke6 bfeU 3Ke6 8dU 1K9",
   "60U 20Ke6 22aU 1Kda 1Ke4 1Ke8 1Kde 2Ke0 69U 2K8 75d4U 1Ke6 4U aKe6 20U 2Ke6 50U 2Ke6 114U 1K9",
   "25U 1K9 97U 1K9 1bU 12Ke6 39U 3Kdc 25U 1K9 5fU 1K7 cU 1K9 efU 1Ke6 1U 2Ke6 1Kdc 2U 2Ke6 5U",
   "2Ke6 1U 1Ke6 34U 1K9 f6U 1K9 4f30U 1K1a 301U 7Ke6 7Kdc 2Ke6 3cdU 1Kdc e2U 1Kdc 95U 5Ke6 692U",
   "1Kdc 1U 1Ke6 28U 1Ke6 1K1 1Kdc 4U 1K9 a5U 1Ke6 1Kdc 23dU 4Ke6 41U 5Ke6 13dU 2Ke6 4dU 2Kdc 1U",
   "3Kdc 46U 2Kdc 3Ke6 1Kdc 1Ke6 4Kdc 31U 1Ke6 1Kdc 1Ke6 1Kdc c0U 1K9 29U 1K9 eU 1K9 39U 1K9 1K7",
   "45U 3Ke6 30U 2K9 3eU 1K7 4cU 1K9 9U 1K7 6aU 1K9 1K7 b2U 1K7 1K9 50U 2K7 10U 1K9 18U 7Ke6 3U",
   "5Ke6 59U 3K9 71U 1K9 3U 1K7 17U 1Ke6 63U 1K9 1K7 fbU 1K9 1K7 7eU 1K9 76U 1K9 1K7 73U 1K9 10dU",
   "1K9 1K7 102U 2K9 4U 1K7 9cU 1K9 53U 1K9 12U 1K9 51U 1K9 1a5U 1K9 102U 1K7 1U 2K9 51U 1K9 1a9U",
   "2K9 41ecU 1K9 9c0U 5K1 3bU 7Ke6 4b9U 2K6 4cacU 1K1 14c6U 2Kd8 3K1 3U 1Ke2 5Kd8 8U 8Kdc 2U 5Ke6",
   "2Kdc 1eU 4Ke6 94U 3Ke6 dbbU 7Ke6 1U 11Ke6 2U 7Ke6 1U 2Ke6 1U 5Ke6 64U 1Ke6 a0U 7Ke6 177U 1Ke6",
   "3dU 4Ke6 1fcU 2Ke8 1Kdc 1Ke6 feU 1Ke6 1Kdc f3U 1Ke6 2U 1Ke6 7U 2Ke6 5U 1Ke6 1daU 7Kdc 6dU 6Ke6",
   "1K7 f16b5U"]

/-- The class of a character, zero unless it is a mark that is put in order. -/
def classOf (c : Char) : Nat := ((Run.find? classes c).bind fun r => r.points.head?).getD 0

/-- Whether a character is the sign that silences a vowel in a script of India. -/
def isVirama (c : Char) : Bool := classOf c == 9

end LiveConfig.Text.Mark
