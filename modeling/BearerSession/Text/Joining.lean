import BearerSession.Text.MarkOrder
import BearerSession.Text.Marks

namespace BearerSession.Joining

/-- The code points at which letters begin and end that join on both sides. -/
def bothTurns : List Nat :=
  [1568, 1569, 1574, 1575, 1576, 1577, 1578, 1583, 1587, 1600, 1601, 1608, 1609, 1611, 1646, 1648,
   1657, 1672, 1690, 1728, 1729, 1731, 1740, 1741, 1742, 1743, 1744, 1746, 1786, 1789, 1791, 1792,
   1810, 1813, 1818, 1822, 1823, 1832, 1833, 1834, 1835, 1836, 1837, 1839, 1870, 1881, 1884, 1899,
   1901, 1905, 1906, 1907, 1909, 1912, 1914, 1920, 1994, 2027, 2113, 2118, 2120, 2121, 2122, 2132,
   2133, 2134, 2144, 2145, 2146, 2150, 2152, 2153, 2182, 2183, 2185, 2190, 2191, 2218, 2223, 2225,
   2227, 2233, 2234, 2249, 6151, 6152, 6176, 6265, 6279, 6315, 43072, 43122, 68288, 68293, 68307,
   68311, 68312, 68317, 68318, 68321, 68331, 68335, 68480, 68481, 68482, 68483, 68486, 68489,
   68490, 68492, 68493, 68494, 68496, 68497, 68525, 68527, 68865, 68898, 68899, 68900, 69315,
   69317, 69318, 69320, 69424, 69427, 69428, 69445, 69457, 69460, 69488, 69492, 69494, 69506,
   69552, 69553, 69554, 69556, 69560, 69561, 69563, 69565, 69566, 69568, 69569, 69570, 69572,
   69573, 69578, 69579, 125218, 125252]

/-- The code points at which letters begin and end that join only what stands before them. -/
def beforeTurns : List Nat :=
  [1570, 1574, 1575, 1576, 1577, 1578, 1583, 1587, 1608, 1609, 1649, 1652, 1672, 1690, 1728, 1729,
   1731, 1740, 1741, 1742, 1743, 1744, 1746, 1748, 1749, 1750, 1774, 1776, 1808, 1809, 1813, 1818,
   1822, 1823, 1832, 1833, 1834, 1835, 1836, 1837, 1839, 1870, 1881, 1884, 1899, 1901, 1905, 1906,
   1907, 1909, 1912, 1914, 2112, 2113, 2118, 2120, 2121, 2122, 2132, 2133, 2134, 2137, 2151, 2152,
   2153, 2179, 2190, 2191, 2218, 2221, 2222, 2223, 2225, 2227, 2233, 2234, 68293, 68294, 68295,
   68296, 68297, 68299, 68302, 68307, 68317, 68318, 68321, 68322, 68324, 68325, 68335, 68336,
   68481, 68482, 68483, 68486, 68489, 68490, 68492, 68493, 68494, 68496, 68497, 68498, 68521,
   68525, 68898, 68899, 69314, 69315, 69427, 69428, 69460, 69461, 69492, 69494, 69556, 69559,
   69561, 69563, 69565, 69566, 69570, 69572, 69577, 69578]

/-- The code points at which letters begin and end that join only what stands after them. -/
def afterTurns : List Nat :=
  [43122, 43123, 68301, 68302, 68311, 68312, 68864, 68865, 69579, 69580]

/-- The character that parts letters. -/
def separator : Char := Char.ofNat 0x200C

/-- The character that joins letters. -/
def joiner : Char := Char.ofNat 0x200D

/-- Whether joining looks through a character. -/
def isTransparent (c : Char) : Bool := isNonspacing c || c.toNat = 0x1E94B

/-- Whether a letter joins what stands before it. -/
def joinsBefore (c : Char) : Bool := inTurns bothTurns c || inTurns beforeTurns c

/-- Whether a letter joins what stands after it. -/
def joinsAfter (c : Char) : Bool := inTurns bothTurns c || inTurns afterTurns c

/-- Whether a character ends a syllable without its vowel. -/
def isVirama (c : Char) : Bool := combiningClass c = 9

/-- Whether a character may stand where it does: one that parts letters between two that would join,
and either of them behind the end of a syllable. What stands before it comes nearest first. -/
def fits (before : List Char) (c : Char) (after : List Char) : Bool :=
  if c = separator || c = joiner then
    before.head?.any isVirama
      || (c = separator && (before.dropWhile isTransparent).head?.any joinsAfter
        && (after.dropWhile isTransparent).head?.any joinsBefore)
  else true

/-- Whether each character of a text may stand where it does. -/
def allFit (before : List Char) : List Char → Bool
  | [] => true
  | c :: after => fits before c after && allFit (c :: before) after

end BearerSession.Joining
