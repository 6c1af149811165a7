/-!
# Labels beyond ASCII

The encoding of a label of a domain name in letters, digits and hyphens: the ASCII characters first,
then the positions of all others as variable-length numbers with an adaptive base.
-/

namespace LiveConfig.Url.Punycode

/-! ## §1 Digits and thresholds -/

/-- The digits `a` to `z` and `0` to `9`. -/
def digitChar (d : Nat) : Char :=
  if d < 26 then Char.ofNat (0x61 + d) else Char.ofNat (0x30 + d - 26)

/-- The value of a digit, in either case. -/
def digitValue? (c : Char) : Option Nat :=
  let n := c.toNat
  if 0x61 ≤ n && n ≤ 0x7A then some (n - 0x61)
  else if 0x41 ≤ n && n ≤ 0x5A then some (n - 0x41)
  else if 0x30 ≤ n && n ≤ 0x39 then some (n - 0x30 + 26)
  else none

/-- The largest value of a final digit at a position. -/
def threshold (position bias : Nat) : Nat :=
  if position ≤ bias then 1 else if bias + 26 ≤ position then 26 else position - bias

theorem threshold_pos (position bias : Nat) : 1 ≤ threshold position bias := by
  unfold threshold
  split
  · omega
  · split <;> omega

/-- Reduce a difference by steps of 35, counting 36 positions a step. -/
def reduce (delta positions : Nat) : Nat × Nat :=
  if 455 < delta then reduce (delta / 35) (positions + 36) else (delta, positions)
termination_by delta

/-- The bias after a difference, of which there have been `count`. -/
def adapt (delta count : Nat) (first : Bool) : Nat :=
  let halved := if first then delta / 700 else delta / 2
  let (d, positions) := reduce (halved + halved / count) 0
  positions + 36 * d / (d + 38)

/-! ## §2 Encoding -/

/-- The digits of one difference. -/
def number (q position bias : Nat) : List Char :=
  let t := threshold position bias
  if q < t ∨ 36 ≤ t then [digitChar q]
  else digitChar (t + (q - t) % (36 - t)) :: number ((q - t) / (36 - t)) (position + 36) bias
termination_by q
decreasing_by
  have := threshold_pos position bias
  exact Nat.lt_of_le_of_lt (Nat.div_le_self _ _) (by omega)

/-- What the encoder remembers between two code points. -/
structure EncoderState where
  delta : Nat := 0
  bias : Nat := 72
  count : Nat
  out : List Char

/-- One character of the label, while the code point `n` is inserted. -/
def encodeStep (basic n : Nat) (s : EncoderState) (c : Char) : EncoderState :=
  if c.toNat < n then { s with delta := s.delta + 1 }
  else if c.toNat = n then
    { delta := 0, bias := adapt s.delta (s.count + 1) (s.count == basic), count := s.count + 1,
      out := s.out ++ number s.delta 36 s.bias }
  else s

/-- Insert the code points of a sorted list one by one; `n` is the next candidate. -/
def encodeFrom (label : List Char) (basic : Nat) : Nat → List Nat → EncoderState → EncoderState
  | _, [], s => s
  | n, m :: rest, s =>
    let s := { s with delta := s.delta + (m - n) * (s.count + 1) }
    let s := label.foldl (encodeStep basic m) s
    encodeFrom label basic (m + 1) rest { s with delta := s.delta + 1 }

/-- The encoded form of a label. -/
def encode (label : List Char) : List Char :=
  let basic := label.filter fun c => c.toNat < 0x80
  let others := ((label.map Char.toNat).filter (0x80 ≤ ·)).mergeSort.eraseDups
  let start := if basic.isEmpty then [] else basic ++ ['-']
  (encodeFrom label basic.length 0x80 others
    { count := basic.length, out := start }).out

/-! ## §3 Decoding -/

/-- Read the digits of one difference: its value and the rest. -/
def readNumber? : Nat → Nat → Nat → Nat → List Char → Option (Nat × List Char)
  | _, _, _, _, [] => none
  | i, weight, position, bias, c :: rest =>
    (digitValue? c).bind fun d =>
      let i := i + d * weight
      let t := threshold position bias
      if UInt32.size ≤ i then none
      else if d < t then some (i, rest)
      else readNumber? i (weight * (36 - t)) (position + 36) bias rest

/-- Insert the encoded code points into the characters read so far. -/
def decodeFrom? : Nat → Nat → Nat → Nat → List Char → List Char → Option (List Char)
  | _, _, _, _, out, [] => some out
  | 0, _, _, _, _, _ :: _ => none
  | fuel + 1, n, i, bias, out, input@(_ :: _) =>
    (readNumber? i 1 36 bias input).bind fun (next, rest) =>
      let size := out.length + 1
      let point := n + next / size
      let place := next % size
      if Nat.isValidChar point then
        decodeFrom? fuel point (place + 1) (adapt (next - i) size (i == 0))
          (out.take place ++ Char.ofNat point :: out.drop place) rest
      else none

/-- The label that an encoded form stands for. -/
def decode? (s : List Char) : Option (List Char) :=
  let tail := (s.reverse.takeWhile (· != '-')).reverse
  let basic := (s.take (s.length - tail.length)).dropLast
  if basic.all fun c => c.toNat < 0x80 then decodeFrom? tail.length 0x80 0 72 basic tail else none

end LiveConfig.Url.Punycode
