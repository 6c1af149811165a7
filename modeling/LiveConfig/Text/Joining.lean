import LiveConfig.Text.Mark

/-!
# Joined writing

Which letters of Unicode 17 are joined with the letters beside them.
-/

namespace LiveConfig.Text.Joining

/-- The letters that are joined: `L` with the next one, `R` with the one before it, `D` with
both. -/
def runs : List Run := Run.readAll
  ["620U 1D 1U 4R 1D 1R 1D 1R 5D 4R dD 1U 7D 1R 17D eU 3D 3R 5U fD 12R 26D 1R 2D 9R 1D 1R 1D 1R 2D",
   "2R 1U 9R 10U 2R aU 3D 2U 1D 10U 2R 3D 5R 4D 1R 9D 1R 1D 1R 1D 1R 2D 1fR bD 3R fD 2R 4D 1R 1D",
   "2R 3D 2R 6D 4aU 2aD 4cU 1R 5D 2R 1D 1R aD 1R 1D 8R 2U 1D 1U 4D 1U 1R 1D 1aR 3U 1D 2U 5D 1R 1bD",
   "3R 1U 1R 2D 2R 6D 1R fD f3eU 1D 18U 60D 7U 29D 8f90U 32D 1L 624dU 5D 1R 1U 1R 1U 2R 2U 1L 5R",
   "4D 1L 5D 1R 3D 1R 2U 7R 4D 1R 90U 1D 1R 1D 3R 3D 1R 2D 1R 1D 2R 1D 8R 10U 4R 2D 151U 1L 21D 1R",
   "dD 192U 1R 2D 1U aD 60U 3D 1R 11D cU 3D 1R 1bU 4D 2R 10D 2aU 1D 1U 2D 3R 1U 1D 2R 2D 1R 2D 1U",
   "1D 2R 1D 4U 1R 1D 15L d942U 2eD f16b0U"]

/-- Whether a letter is joined with the one behind it. -/
def joinsNext (c : Char) : Bool :=
  match Run.letterOf runs c with
  | 'L' | 'D' => true
  | _ => false

/-- Whether a letter is joined with the one before it. -/
def joinsPrevious (c : Char) : Bool :=
  match Run.letterOf runs c with
  | 'R' | 'D' => true
  | _ => false

end LiveConfig.Text.Joining
