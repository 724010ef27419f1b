import BearerSession.Text.Marks

namespace BearerSession

/-- What a character tells of the direction of its text. -/
inductive Direction
  | left
  | right
  | westernDigit
  | easternDigit
  | mark
  | neutral
  deriving DecidableEq, Repr

namespace Direction

/-- The code points at which writing from the right begins and ends. -/
def rightTurns : List Nat :=
  [1470, 1525, 1544, 1545, 1547, 1548, 1549, 1550, 1563, 1611, 1645, 1750, 1765, 1767, 1774, 1776,
   1786, 2038, 2042, 2250, 64434, 64467, 64912, 64975, 65139, 65140, 67584, 67868, 67872, 68406,
   68416, 68900, 68928, 69008, 69248, 69623, 124928, 126270]

/-- The code points at which digits begin and end that are written between western ones. -/
def westernTurns : List Nat := [1776, 1786, 66273, 66300]

/-- The code points at which digits of writing from the right begin and end. -/
def easternTurns : List Nat := [1632, 1642, 1643, 1645, 68912, 68922, 69216, 69247]

/-- The code points beyond ASCII at which signs without a direction begin and end. -/
def neutralTurns : List Nat :=
  [161, 216, 247, 248, 697, 699, 706, 720, 722, 750, 751, 768, 885, 886, 1014, 1015, 1418, 1424,
   1542, 1544, 1545, 1547, 1548, 1549, 1550, 1552, 1642, 1643, 1758, 1759, 1769, 1770, 2038, 2042,
   2546, 2548, 2555, 2556, 2801, 2802, 3059, 3067, 3192, 3199, 3647, 3648, 3898, 3902, 5008, 5018,
   5120, 5121, 5787, 5789, 6107, 6108, 6128, 6155, 6464, 6470, 6622, 6656, 8204, 8526, 8586, 9014,
   9083, 9109, 9110, 9255, 9280, 9900, 9901, 10240, 10496, 11158, 11159, 11264, 11493, 11499,
   11513, 11520, 11776, 12293, 12296, 12321, 12336, 12337, 12343, 12344, 12349, 12352, 12448,
   12449, 12539, 12540, 12736, 12772, 19904, 19968, 42128, 42183, 42509, 42512, 42611, 42624,
   42752, 42786, 42888, 42889, 43048, 43052, 43064, 43066, 43124, 43128, 43882, 43884, 64830,
   64848, 64975, 65095, 65793, 65794, 65856, 65933, 65936, 65953, 67871, 67872, 68409, 68416,
   69714, 69734, 71264, 71277, 73685, 73714, 94178, 94179, 117760, 117974, 118016, 118452, 119273,
   119366, 119552, 119639, 123647, 123648, 124415, 124416, 126704, 127280, 127341, 127344, 127405,
   127406, 127584, 128728, 128732, 128887, 128891, 129218, 129280, 129620, 129632, 129674, 129679,
   129735, 129742, 129770, 129776, 130032]

/-- The direction of a character. -/
def ofChar (c : Char) : Direction :=
  if c.toNat < 0x80 then
    if c.isDigit then westernDigit else if c.isAlpha then left else neutral
  else if isNonspacing c then mark
  else if inTurns westernTurns c then westernDigit
  else if inTurns easternTurns c then easternDigit
  else if inTurns rightTurns c then right
  else if inTurns neutralTurns c then neutral
  else left

end Direction

end BearerSession
