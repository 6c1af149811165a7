import LiveConfig.Text.Mark

/-!
# Directions

The direction in which the characters of Unicode 17 are written, as far as it matters for the names
of hosts.
-/

namespace LiveConfig.Text

/-- How a character takes part in the direction of a text. -/
inductive Direction
  | leftToRight
  | rightToLeft
  /-- A digit of the kind that Arabic has of its own. -/
  | arabicNumber
  | europeanNumber
  /-- It is written in the direction of what surrounds it. -/
  | neutral
  /-- It belongs to the character before it. -/
  | nonspacing
deriving DecidableEq, Repr

namespace Direction

/-- The directions of all characters that belong to no other one. -/
def runs : List Run := Run.readAll
  ["30O aE 27O 1aL 64O 18L 1O 1c1L 2O 7L eO 2L 1cO 1L 82O 4L 2O 7fL 2O 192L 34O 48R 2O 1R 2O 1R 1O",
   "1R dO 45R aA 1O 2A 71R 7O 4R 5O 2R aE fcR 4O 109R efL 2O 7L 1O f5L 8O faL eO 77L 7O 1c0L 1O",
   "faL 4O 452L 10O 60L 1O 29aL 5O 13bL 1O 14L 20O 130L 6O 98L 22O 60cL 142O 3cL 1acO 45L 1aO 1L",
   "316O 1L 153O 100L 330O b5L 7O dL 7O 100L 205O 3L 19O fL 1O 6L 4O 2L 4O 5fL 1O 5aL 1O c4L 30O",
   "1bd0L 40O 5690L 40O 13dL 3O 63L eO 7fL 23O 65L 1O 9fL 8O 8L 8O 34L cO 2eaL 56O 4ff2L 11R 2b0O",
   "18dR 101L 1O 3eL 4dO 3L 40O 111L 1fE 500L 11fR 1O 219R 7O 1f0R 1aA 24R 1O f1R 20A 50R 30O 100R",
   "52L 14O 5faL 20O 955L 2aO 4fe3L 1O 5c1dL 350O 299L d7O 40L 60O f9fL 1d1O 330L 6f0R 260O 1dL 3O",
   "3dL 39O 7aL da0O f0000L"]

/-- The direction of a character. -/
def ofChar (c : Char) : Direction :=
  if Mark.isNonspacing c then .nonspacing
  else
    match Run.letterOf runs c with
    | 'L' => .leftToRight
    | 'R' => .rightToLeft
    | 'A' => .arabicNumber
    | 'E' => .europeanNumber
    | _ => .neutral

end Direction

end LiveConfig.Text
