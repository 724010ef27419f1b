import BearerSession.Text.Characters

namespace BearerSession

/-- The classes of marks that move, each with the code points at which it begins and ends. Marks of
different classes do not touch, so that their order carries no meaning. -/
def combiningClasses : List (Nat × List Nat) := [
   (1, [820, 825, 7380, 7381, 7394, 7401, 8402, 8404, 8408, 8411, 8421, 8423, 8426, 8428, 68153,
     68154, 92912, 92917, 113822, 113823, 119143, 119146]),
   (6, [94192, 94194]),
   (7, [2364, 2365, 2492, 2493, 2620, 2621, 2748, 2749, 2876, 2877, 3132, 3133, 3260, 3261, 4151,
     4152, 6964, 6965, 7142, 7143, 7223, 7224, 43443, 43444, 69818, 69819, 70003, 70004, 70090,
     70091, 70198, 70199, 70377, 70378, 70459, 70461, 70726, 70727, 70851, 70852, 71104, 71105,
     71351, 71352, 71738, 71739, 72003, 72004, 73026, 73027, 125258, 125259]),
   (8, [12441, 12443]),
   (9, [2381, 2382, 2509, 2510, 2637, 2638, 2765, 2766, 2893, 2894, 3021, 3022, 3149, 3150, 3277,
     3278, 3387, 3389, 3405, 3406, 3530, 3531, 3642, 3643, 3770, 3771, 3972, 3973, 4153, 4155,
     5908, 5910, 5940, 5941, 6098, 6099, 6752, 6753, 6980, 6981, 7082, 7084, 7154, 7156, 11647,
     11648, 43014, 43015, 43052, 43053, 43204, 43205, 43347, 43348, 43456, 43457, 43766, 43767,
     44013, 44014, 68159, 68160, 69702, 69703, 69744, 69745, 69759, 69760, 69817, 69818, 69939,
     69941, 70080, 70081, 70197, 70198, 70378, 70379, 70477, 70478, 70606, 70609, 70722, 70723,
     70850, 70851, 71103, 71104, 71231, 71232, 71350, 71351, 71467, 71468, 71737, 71738, 71997,
     71999, 72160, 72161, 72244, 72245, 72263, 72264, 72345, 72346, 72767, 72768, 73028, 73030,
     73111, 73112, 73537, 73539, 90415, 90416]),
   (10, [1456, 1457]),
   (11, [1457, 1458]),
   (12, [1458, 1459]),
   (13, [1459, 1460]),
   (14, [1460, 1461]),
   (15, [1461, 1462]),
   (16, [1462, 1463]),
   (17, [1463, 1464]),
   (18, [1464, 1465, 1479, 1480]),
   (19, [1465, 1467]),
   (20, [1467, 1468]),
   (21, [1468, 1469]),
   (22, [1469, 1470]),
   (23, [1471, 1472]),
   (24, [1473, 1474]),
   (25, [1474, 1475]),
   (26, [64286, 64287]),
   (27, [1611, 1612, 2288, 2289]),
   (28, [1612, 1613, 2289, 2290]),
   (29, [1613, 1614, 2290, 2291]),
   (30, [1560, 1561, 1614, 1615]),
   (31, [1561, 1562, 1615, 1616]),
   (32, [1562, 1563, 1616, 1617]),
   (33, [1617, 1618]),
   (34, [1618, 1619]),
   (35, [1648, 1649]),
   (36, [1809, 1810]),
   (84, [3157, 3158]),
   (91, [3158, 3159]),
   (103, [3640, 3642]),
   (107, [3656, 3660]),
   (118, [3768, 3770]),
   (122, [3784, 3788]),
   (129, [3953, 3954]),
   (130, [3954, 3955, 3962, 3966, 3968, 3969]),
   (132, [3956, 3957]),
   (202, [801, 803, 807, 809, 7632, 7633]),
   (214, [7630, 7631]),
   (216, [795, 796, 3897, 3898, 119141, 119143, 119150, 119155]),
   (218, [7674, 7675, 12330, 12331]),
   (220, [790, 794, 796, 801, 803, 807, 809, 820, 825, 829, 839, 842, 845, 847, 851, 855, 857,
     859, 1425, 1426, 1430, 1431, 1435, 1436, 1442, 1448, 1450, 1451, 1477, 1478, 1621, 1623,
     1628, 1629, 1631, 1632, 1763, 1764, 1770, 1771, 1773, 1774, 1841, 1842, 1844, 1845, 1847,
     1850, 1851, 1853, 1854, 1855, 1858, 1859, 1860, 1861, 1862, 1863, 1864, 1865, 2034, 2035,
     2045, 2046, 2137, 2140, 2201, 2204, 2255, 2260, 2275, 2276, 2278, 2279, 2281, 2282, 2285,
     2288, 2294, 2295, 2297, 2299, 2386, 2387, 3864, 3866, 3893, 3894, 3895, 3896, 4038, 4039,
     4237, 4238, 6459, 6460, 6680, 6681, 6783, 6784, 6837, 6843, 6845, 6846, 6847, 6849, 6851,
     6853, 6858, 6859, 6877, 6878, 6886, 6887, 7020, 7021, 7381, 7386, 7388, 7392, 7405, 7406,
     7618, 7619, 7626, 7627, 7631, 7632, 7673, 7674, 7677, 7678, 7679, 7680, 8424, 8425, 8428,
     8432, 43307, 43310, 43700, 43701, 65063, 65070, 66045, 66046, 66272, 66273, 68109, 68110,
     68154, 68155, 68326, 68327, 69370, 69372, 69373, 69376, 69446, 69448, 69451, 69452, 69453,
     69457, 69507, 69508, 69509, 69510, 119163, 119171, 119178, 119180, 124142, 124143, 124399,
     124400, 125136, 125143]),
   (222, [1434, 1435, 1453, 1454, 6457, 6458, 12333, 12334]),
   (224, [12334, 12336]),
   (226, [119149, 119150]),
   (228, [1454, 1455, 6313, 6314, 7671, 7673, 12331, 12332]),
   (230, [768, 789, 829, 832, 834, 835, 838, 839, 842, 845, 848, 851, 855, 856, 859, 860, 867,
     880, 1155, 1160, 1426, 1430, 1431, 1434, 1436, 1442, 1448, 1450, 1451, 1453, 1455, 1456,
     1476, 1477, 1552, 1560, 1619, 1621, 1623, 1628, 1629, 1631, 1750, 1757, 1759, 1763, 1764,
     1765, 1767, 1769, 1771, 1773, 1840, 1841, 1842, 1844, 1845, 1847, 1850, 1851, 1853, 1854,
     1855, 1858, 1859, 1860, 1861, 1862, 1863, 1864, 1865, 1867, 2027, 2034, 2035, 2036, 2070,
     2074, 2075, 2084, 2085, 2088, 2089, 2094, 2199, 2201, 2204, 2208, 2250, 2255, 2260, 2274,
     2276, 2278, 2279, 2281, 2282, 2285, 2291, 2294, 2295, 2297, 2299, 2304, 2385, 2386, 2387,
     2389, 2558, 2559, 3970, 3972, 3974, 3976, 4957, 4960, 6109, 6110, 6458, 6459, 6679, 6680,
     6773, 6781, 6832, 6837, 6843, 6845, 6849, 6851, 6853, 6858, 6859, 6877, 6880, 6886, 6887,
     6891, 7019, 7020, 7021, 7028, 7376, 7379, 7386, 7388, 7392, 7393, 7412, 7413, 7416, 7418,
     7616, 7618, 7619, 7626, 7627, 7629, 7633, 7670, 7675, 7676, 7678, 7679, 8400, 8402, 8404,
     8408, 8411, 8413, 8417, 8418, 8423, 8424, 8425, 8426, 8432, 8433, 11503, 11506, 11744, 11776,
     42607, 42608, 42612, 42622, 42654, 42656, 42736, 42738, 43232, 43250, 43696, 43697, 43698,
     43700, 43703, 43705, 43710, 43712, 43713, 43714, 65056, 65063, 65070, 65072, 66422, 66427,
     68111, 68112, 68152, 68153, 68325, 68326, 68900, 68904, 68969, 68974, 69291, 69293, 69448,
     69451, 69452, 69453, 69506, 69507, 69508, 69509, 69888, 69891, 70502, 70509, 70512, 70517,
     70750, 70751, 92976, 92983, 119173, 119178, 119210, 119214, 119362, 119365, 122880, 122887,
     122888, 122905, 122907, 122914, 122915, 122917, 122918, 122923, 123023, 123024, 123184,
     123191, 123566, 123567, 123628, 123632, 124143, 124144, 124398, 124399, 124643, 124644,
     124646, 124647, 124654, 124656, 124661, 124662, 125252, 125258]),
   (232, [789, 790, 794, 795, 856, 857, 7670, 7671, 12332, 12333, 124140, 124142]),
   (233, [860, 861, 863, 864, 866, 867, 7676, 7677]),
   (234, [861, 863, 864, 866, 6891, 6892, 7629, 7630]),
   (240, [837, 838])
  ]

/-- The class of a mark; characters that do not move are in class zero. -/
def combiningClass (c : Char) : Nat :=
  if c.toNat < 0x300 then 0
  else ((combiningClasses.find? fun (_, turns) => inTurns turns c).map (·.1)).getD 0

end BearerSession
