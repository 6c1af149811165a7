import LiveConfig.Text.Mark

/-!
# Composed characters

The normal form of a text in which a character and its marks are written as one character where
there is one: everything is taken apart, marks are put in order, and what fits is put together
again.

## Syllables

The syllables of Korean are composed by rule: of 19 leading consonants, 21 vowels, and 27 trailing
consonants or none.
-/

namespace LiveConfig.Text.Composition

/-! ## §1 Pairs -/

/-- The characters that are composed of two others, as far as they may stand in the name of a
host. -/
def runs : List Run := Run.readAll
  ["e0U 1P61,300 1P61,301 1P61,302 1P61,303 1P61,308 1P61,30a 1U 1P63,327 1P65,300 1P65,301",
   "1P65,302 1P65,308 1P69,300 1P69,301 1P69,302 1P69,308 1U 1P6e,303 1P6f,300 1P6f,301 1P6f,302",
   "1P6f,303 1P6f,308 2U 1P75,300 1P75,301 1P75,302 1P75,308 1P79,301 1U 1P79,308 1U 1P61,304 1U",
   "1P61,306 1U 1P61,328 1U 1P63,301 1U 1P63,302 1U 1P63,307 1U 1P63,30c 1U 1P64,30c 3U 1P65,304",
   "1U 1P65,306 1U 1P65,307 1U 1P65,328 1U 1P65,30c 1U 1P67,302 1U 1P67,306 1U 1P67,307 1U",
   "1P67,327 1U 1P68,302 3U 1P69,303 1U 1P69,304 1U 1P69,306 1U 1P69,328 5U 1P6a,302 1U 1P6b,327",
   "2U 1P6c,301 1U 1P6c,327 1U 1P6c,30c 5U 1P6e,301 1U 1P6e,327 1U 1P6e,30c 4U 1P6f,304 1U",
   "1P6f,306 1U 1P6f,30b 3U 1P72,301 1U 1P72,327 1U 1P72,30c 1U 1P73,301 1U 1P73,302 1U 1P73,327",
   "1U 1P73,30c 1U 1P74,327 1U 1P74,30c 3U 1P75,303 1U 1P75,304 1U 1P75,306 1U 1P75,30a 1U",
   "1P75,30b 1U 1P75,328 1U 1P77,302 1U 1P79,302 2U 1P7a,301 1U 1P7a,307 1U 1P7a,30c 22U 1P6f,31b",
   "eU 1P75,31b 1dU 1P61,30c 1U 1P69,30c 1U 1P6f,30c 1U 1P75,30c 1U 1Pfc,304 1U 1Pfc,301 1U",
   "1Pfc,30c 1U 1Pfc,300 2U 1Pe4,304 1U 1P227,304 1U 1Pe6,304 3U 1P67,30c 1U 1P6b,30c 1U 1P6f,328",
   "1U 1P1eb,304 1U 1P292,30c 1P6a,30c 4U 1P67,301 3U 1P6e,300 1U 1Pe5,301 1U 1Pe6,301 1U 1Pf8,301",
   "1U 1P61,30f 1U 1P61,311 1U 1P65,30f 1U 1P65,311 1U 1P69,30f 1U 1P69,311 1U 1P6f,30f 1U",
   "1P6f,311 1U 1P72,30f 1U 1P72,311 1U 1P75,30f 1U 1P75,311 1U 1P73,326 1U 1P74,326 3U 1P68,30c",
   "7U 1P61,307 1U 1P65,327 1U 1Pf6,304 1U 1Pf5,304 1U 1P6f,307 1U 1P22f,304 1U 1P79,304 15cU",
   "1P3ca,301 1bU 1P3b1,301 1P3b5,301 1P3b7,301 1P3b9,301 1P3cb,301 19U 1P3b9,308 1P3c5,308",
   "1P3bf,301 1P3c5,301 1P3c9,301 6aU 1P438,306 16U 1P435,300 1P435,308 1U 1P433,301 3U 1P456,308",
   "4U 1P43a,301 1P438,300 1P443,306 18U 1P475,30f 4aU 1P436,306 eU 1P430,306 1U 1P430,308 3U",
   "1P435,306 3U 1P4d9,308 1U 1P436,308 1U 1P437,308 3U 1P438,304 1U 1P438,308 1U 1P43e,308 3U",
   "1P4e9,308 1U 1P44d,308 1U 1P443,304 1U 1P443,308 1U 1P443,30b 1U 1P447,308 3U 1P44b,308 128U",
   "1P627,653 1P627,654 1P648,654 1P627,655 1P64a,654 99U 1P6d5,654 1U 1P6c1,654 10U 1P6d2,654",
   "255U 1P928,93c 7U 1P930,93c 2U 1P933,93c 96U 1P9c7,9be 1P9c7,9d7 17bU 1Pb47,b56 2U 1Pb47,b3e",
   "1Pb47,b57 47U 1Pb92,bd7 35U 1Pbc6,bbe 1Pbc7,bbe 1Pbc6,bd7 7bU 1Pc46,c56 77U 1Pcbf,cd5 6U",
   "1Pcc6,cd5 1Pcc6,cd6 1U 1Pcc6,cc2 1Pcca,cd5 7eU 1Pd46,d3e 1Pd47,d3e 1Pd46,d57 8dU 1Pdd9,dca 1U",
   "1Pdd9,dcf 1Pddc,dca 1Pdd9,ddf 247U 1P1025,102e adfU 1P1b05,1b35 1U 1P1b07,1b35 1U 1P1b09,1b35",
   "1U 1P1b0b,1b35 1U 1P1b0d,1b35 3U 1P1b11,1b35 28U 1P1b3a,1b35 1U 1P1b3c,1b35 2U 1P1b3e,1b35",
   "1P1b3f,1b35 1U 1P1b42,1b35 2bdU 1P61,325 1U 1P62,307 1U 1P62,323 1U 1P62,331 1U 1Pe7,301 1U",
   "1P64,307 1U 1P64,323 1U 1P64,331 1U 1P64,327 1U 1P64,32d 1U 1P113,300 1U 1P113,301 1U 1P65,32d",
   "1U 1P65,330 1U 1P229,306 1U 1P66,307 1U 1P67,304 1U 1P68,307 1U 1P68,323 1U 1P68,308 1U",
   "1P68,327 1U 1P68,32e 1U 1P69,330 1U 1Pef,301 1U 1P6b,301 1U 1P6b,323 1U 1P6b,331 1U 1P6c,323",
   "1U 1P1e37,304 1U 1P6c,331 1U 1P6c,32d 1U 1P6d,301 1U 1P6d,307 1U 1P6d,323 1U 1P6e,307 1U",
   "1P6e,323 1U 1P6e,331 1U 1P6e,32d 1U 1Pf5,301 1U 1Pf5,308 1U 1P14d,300 1U 1P14d,301 1U 1P70,301",
   "1U 1P70,307 1U 1P72,307 1U 1P72,323 1U 1P1e5b,304 1U 1P72,331 1U 1P73,307 1U 1P73,323 1U",
   "1P15b,307 1U 1P161,307 1U 1P1e63,307 1U 1P74,307 1U 1P74,323 1U 1P74,331 1U 1P74,32d 1U",
   "1P75,324 1U 1P75,330 1U 1P75,32d 1U 1P169,301 1U 1P16b,308 1U 1P76,303 1U 1P76,323 1U 1P77,300",
   "1U 1P77,301 1U 1P77,308 1U 1P77,307 1U 1P77,323 1U 1P78,307 1U 1P78,308 1U 1P79,307 1U",
   "1P7a,302 1U 1P7a,323 1U 1P7a,331 1P68,331 1P74,308 1P77,30a 1P79,30a 7U 1P61,323 1U 1P61,309",
   "1U 1Pe2,301 1U 1Pe2,300 1U 1Pe2,309 1U 1Pe2,303 1U 1P1ea1,302 1U 1P103,301 1U 1P103,300 1U",
   "1P103,309 1U 1P103,303 1U 1P1ea1,306 1U 1P65,323 1U 1P65,309 1U 1P65,303 1U 1Pea,301 1U",
   "1Pea,300 1U 1Pea,309 1U 1Pea,303 1U 1P1eb9,302 1U 1P69,309 1U 1P69,323 1U 1P6f,323 1U 1P6f,309",
   "1U 1Pf4,301 1U 1Pf4,300 1U 1Pf4,309 1U 1Pf4,303 1U 1P1ecd,302 1U 1P1a1,301 1U 1P1a1,300 1U",
   "1P1a1,309 1U 1P1a1,303 1U 1P1a1,323 1U 1P75,323 1U 1P75,309 1U 1P1b0,301 1U 1P1b0,300 1U",
   "1P1b0,309 1U 1P1b0,303 1U 1P1b0,323 1U 1P79,300 1U 1P79,323 1U 1P79,309 1U 1P79,303 6U",
   "1P3b1,313 1P3b1,314 1P1f00,300 1P1f01,300 1P1f00,301 1P1f01,301 1P1f00,342 1P1f01,342 8U",
   "1P3b5,313 1P3b5,314 1P1f10,300 1P1f11,300 1P1f10,301 1P1f11,301 aU 1P3b7,313 1P3b7,314",
   "1P1f20,300 1P1f21,300 1P1f20,301 1P1f21,301 1P1f20,342 1P1f21,342 8U 1P3b9,313 1P3b9,314",
   "1P1f30,300 1P1f31,300 1P1f30,301 1P1f31,301 1P1f30,342 1P1f31,342 8U 1P3bf,313 1P3bf,314",
   "1P1f40,300 1P1f41,300 1P1f40,301 1P1f41,301 aU 1P3c5,313 1P3c5,314 1P1f50,300 1P1f51,300",
   "1P1f50,301 1P1f51,301 1P1f50,342 1P1f51,342 8U 1P3c9,313 1P3c9,314 1P1f60,300 1P1f61,300",
   "1P1f60,301 1P1f61,301 1P1f60,342 1P1f61,342 8U 1P3b1,300 1U 1P3b5,300 1U 1P3b7,300 1U",
   "1P3b9,300 1U 1P3bf,300 1U 1P3c5,300 1U 1P3c9,300 33U 1P3b1,306 1P3b1,304 4U 1P3b1,342 fU",
   "1P3b7,342 9U 1P3b9,306 1P3b9,304 1P3ca,300 3U 1P3b9,342 1P3ca,342 8U 1P3c5,306 1P3c5,304",
   "1P3cb,300 1U 1P3c1,313 1P3c1,314 1P3c5,342 1P3cb,342 eU 1P3c9,342 1a3U 1P2190,338 1P2192,338",
   "12U 1P2194,338 1eU 1P21d0,338 1P21d4,338 1P21d2,338 34U 1P2203,338 4U 1P2208,338 2U 1P220b,338",
   "17U 1P2223,338 1U 1P2225,338 1aU 1P223c,338 2U 1P2243,338 2U 1P2245,338 1U 1P2248,338 16U",
   "1P3d,338 1U 1P2261,338 aU 1P224d,338 1P3c,338 1P3e,338 1P2264,338 1P2265,338 2U 1P2272,338",
   "1P2273,338 2U 1P2276,338 1P2277,338 6U 1P227a,338 1P227b,338 2U 1P2282,338 1P2283,338 2U",
   "1P2286,338 1P2287,338 22U 1P22a2,338 1P22a8,338 1P22a9,338 1P22ab,338 30U 1P227c,338",
   "1P227d,338 1P2291,338 1P2292,338 6U 1P22b2,338 1P22b3,338 1P22b4,338 1P22b5,338 d5eU",
   "1P304b,3099 1U 1P304d,3099 1U 1P304f,3099 1U 1P3051,3099 1U 1P3053,3099 1U 1P3055,3099 1U",
   "1P3057,3099 1U 1P3059,3099 1U 1P305b,3099 1U 1P305d,3099 1U 1P305f,3099 1U 1P3061,3099 2U",
   "1P3064,3099 1U 1P3066,3099 1U 1P3068,3099 6U 1P306f,3099 1P306f,309a 1U 1P3072,3099",
   "1P3072,309a 1U 1P3075,3099 1P3075,309a 1U 1P3078,3099 1P3078,309a 1U 1P307b,3099 1P307b,309a",
   "16U 1P3046,3099 9U 1P309d,3099 dU 1P30ab,3099 1U 1P30ad,3099 1U 1P30af,3099 1U 1P30b1,3099 1U",
   "1P30b3,3099 1U 1P30b5,3099 1U 1P30b7,3099 1U 1P30b9,3099 1U 1P30bb,3099 1U 1P30bd,3099 1U",
   "1P30bf,3099 1U 1P30c1,3099 2U 1P30c4,3099 1U 1P30c6,3099 1U 1P30c8,3099 6U 1P30cf,3099",
   "1P30cf,309a 1U 1P30d2,3099 1P30d2,309a 1U 1P30d5,3099 1P30d5,309a 1U 1P30d8,3099 1P30d8,309a",
   "1U 1P30db,3099 1P30db,309a 16U 1P30a6,3099 2U 1P30ef,3099 1P30f0,3099 1P30f1,3099 1P30f2,3099",
   "3U 1P30fd,3099 d4caU 1P105d2,307 1aU 1P105da,307 ab5U 1P11099,110ba 1U 1P1109b,110ba eU",
   "1P110a5,110ba 82U 1P11131,11127 1P11132,11127 21bU 1P11347,1133e 1P11347,11357 36U",
   "1P11382,113c9 1U 1P11384,113bb 8U 1P1138b,113c2 2U 1P11390,113c9 33U 1P113c2,113c2 1U",
   "1P113c2,113b8 1P113c2,113c9 f2U 1P114b9,114ba 1P114b9,114b0 1U 1P114b9,114bd fbU 1P115b8,115af",
   "1P115b9,115af 37cU 1P11935,11930 47e8U 1P1611e,1611e 1P1611e,16129 1P1611e,1611f 1P16129,1611f",
   "1P1611e,16120 1P16121,1611f 1P16122,1611f 1P16121,16120 c3fU 1P16d67,16d67 1P16d63,16d67",
   "1P16d69,16d67 f9295U"]

/-- A composed character and its two parts. -/
structure Pair where
  whole : Char
  base : Char
  mark : Char
deriving DecidableEq, Repr

/-- The pairs of the table. -/
def pairs : List Pair :=
  runs.filterMap fun r =>
    match r.points with
    | [base, mark] => some ⟨Char.ofNat r.first, Char.ofNat base, Char.ofNat mark⟩
    | _ => none

/-! ## §2 Syllables -/

/-- The first of the leading consonants, the vowels, the trailing consonants and the syllables; in
front of the first trailing consonant is the place of none. -/
def leads : Nat := 0x1100
def vowels : Nat := 0x1161
def trails : Nat := 0x11A7
def syllables : Nat := 0xAC00

/-- The two parts of a syllable. -/
def splitSyllable? (c : Char) : Option (Char × Char) :=
  let n := c.toNat - syllables
  if c.toNat < syllables || 19 * 21 * 28 ≤ n then none
  else if n % 28 = 0 then
    some (Char.ofNat (leads + n / 588), Char.ofNat (vowels + n / 28 % 21))
  else some (Char.ofNat (syllables + n / 28 * 28), Char.ofNat (trails + n % 28))

/-- The syllable of two parts. -/
def joinSyllable? (a b : Char) : Option Char :=
  let lead := a.toNat - leads
  let vowel := b.toNat - vowels
  let open_ := a.toNat - syllables
  let trail := b.toNat - trails
  if leads ≤ a.toNat && lead < 19 && vowels ≤ b.toNat && vowel < 21 then
    some (Char.ofNat (syllables + (lead * 21 + vowel) * 28))
  else if syllables ≤ a.toNat && open_ < 19 * 21 * 28 && open_ % 28 == 0 && trails < b.toNat
      && trail < 28 then
    some (Char.ofNat (a.toNat + trail))
  else none

/-! ## §3 Taking apart -/

/-- The two parts of a character, if it is composed. -/
def split? (c : Char) : Option (Char × Char) :=
  match splitSyllable? c with
  | some p => some p
  | none => (pairs.find? (·.whole == c)).map fun p => (p.base, p.mark)

/-- Take a character apart, so many times at most. -/
def takeApart : Nat → Char → List Char
  | 0, c => [c]
  | fuel + 1, c =>
    match split? c with
    | some (base, mark) => takeApart fuel base ++ [mark]
    | none => [c]

/-- How often a character can be taken apart. -/
def maxParts : Nat := 3

/-- Put a character in front of marks in order: behind those of a smaller class, unless it has no
class itself. -/
def place (c : Char) : List Char → List Char
  | [] => [c]
  | d :: rest =>
    if Mark.classOf d ≠ 0 ∧ Mark.classOf d < Mark.classOf c then d :: place c rest
    else c :: d :: rest

/-- Put the marks behind each character in the order of their classes. -/
def arrange (s : List Char) : List Char := s.foldr place []

/-! ## §4 Putting together -/

/-- The character of two parts. -/
def join? (a b : Char) : Option Char :=
  match joinSyllable? a b with
  | some c => some c
  | none => (pairs.find? fun p => p.base == a && p.mark == b).map Pair.whole

/-- A character and the marks behind it that could not be joined with it. -/
structure Cluster where
  base : Char
  marks : List Char

/-- Add a character to a cluster, unless it begins a new one. A mark is joined with the base only if
no mark of its class or a larger one stands between them. -/
def Cluster.add? (k : Cluster) (c : Char) : Option Cluster :=
  let reachable := k.marks.getLast?.all fun last => Mark.classOf last < Mark.classOf c
  match if reachable then join? k.base c else none with
  | some whole => some { k with base := whole }
  | none => if Mark.classOf c = 0 then none else some { k with marks := k.marks ++ [c] }

/-- Put together what fits, behind an open cluster. -/
def putTogether : Option Cluster → List Char → List Char
  | none, [] => []
  | some k, [] => k.base :: k.marks
  | none, c :: rest =>
    -- A mark at the start has nothing to be joined with.
    if Mark.classOf c = 0 then putTogether (some ⟨c, []⟩) rest else c :: putTogether none rest
  | some k, c :: rest =>
    match k.add? c with
    | some k => putTogether (some k) rest
    | none => k.base :: k.marks ++ putTogether (some ⟨c, []⟩) rest

/-- **The composed form of a text.** -/
def compose (s : List Char) : List Char :=
  putTogether none (arrange (s.flatMap (takeApart maxParts)))

end LiveConfig.Text.Composition
