import Trackage.Text.Basic

/-!
Combining marks by Unicode 14, as far as they stand in names. A letter with marks has one composed
spelling: its marks are in the order of their classes, and as many of them as possible are one
character with it. Syllables of Hangul are composed by themselves and count as letters here.
-/

namespace Trackage.Text

/-- Marks that take no room of their own, in runs with their class; those without a class have zero. -/
def nonspacingMarks : List (Nat × Nat × Nat × Nat) := [
  (768, 788, 1, 230), (789, 789, 1, 232), (790, 793, 1, 220), (794, 794, 1, 232),
  (795, 795, 1, 216), (796, 800, 1, 220), (801, 802, 1, 202), (803, 806, 1, 220),
  (807, 808, 1, 202), (809, 819, 1, 220), (820, 824, 1, 1), (825, 828, 1, 220), (829, 831, 1, 230),
  (834, 834, 1, 230), (838, 838, 1, 230), (839, 841, 1, 220), (842, 844, 1, 230),
  (845, 846, 1, 220), (848, 850, 1, 230), (851, 854, 1, 220), (855, 855, 1, 230),
  (856, 856, 1, 232), (857, 858, 1, 220), (859, 859, 1, 230), (860, 860, 1, 233),
  (861, 862, 1, 234), (863, 863, 1, 233), (864, 865, 1, 234), (866, 866, 1, 233),
  (867, 879, 1, 230), (1155, 1159, 1, 230), (1425, 1425, 1, 220), (1426, 1429, 1, 230),
  (1430, 1430, 1, 220), (1431, 1433, 1, 230), (1434, 1434, 1, 222), (1435, 1435, 1, 220),
  (1436, 1441, 1, 230), (1442, 1447, 1, 220), (1448, 1449, 1, 230), (1450, 1450, 1, 220),
  (1451, 1452, 1, 230), (1453, 1453, 1, 222), (1454, 1454, 1, 228), (1455, 1455, 1, 230),
  (1456, 1456, 1, 10), (1457, 1457, 1, 11), (1458, 1458, 1, 12), (1459, 1459, 1, 13),
  (1460, 1460, 1, 14), (1461, 1461, 1, 15), (1462, 1462, 1, 16), (1463, 1463, 1, 17),
  (1464, 1464, 1, 18), (1465, 1466, 1, 19), (1467, 1467, 1, 20), (1468, 1468, 1, 21),
  (1469, 1469, 1, 22), (1471, 1471, 1, 23), (1473, 1473, 1, 24), (1474, 1474, 1, 25),
  (1476, 1476, 1, 230), (1477, 1477, 1, 220), (1479, 1479, 1, 18), (1552, 1559, 1, 230),
  (1560, 1560, 1, 30), (1561, 1561, 1, 31), (1562, 1562, 1, 32), (1611, 1611, 1, 27),
  (1612, 1612, 1, 28), (1613, 1613, 1, 29), (1614, 1614, 1, 30), (1615, 1615, 1, 31),
  (1616, 1616, 1, 32), (1617, 1617, 1, 33), (1618, 1618, 1, 34), (1619, 1620, 1, 230),
  (1621, 1622, 1, 220), (1623, 1627, 1, 230), (1628, 1628, 1, 220), (1629, 1630, 1, 230),
  (1631, 1631, 1, 220), (1648, 1648, 1, 35), (1750, 1756, 1, 230), (1759, 1762, 1, 230),
  (1763, 1763, 1, 220), (1764, 1764, 1, 230), (1767, 1768, 1, 230), (1770, 1770, 1, 220),
  (1771, 1772, 1, 230), (1773, 1773, 1, 220), (1809, 1809, 1, 36), (1840, 1840, 1, 230),
  (1841, 1841, 1, 220), (1842, 1843, 1, 230), (1844, 1844, 1, 220), (1845, 1846, 1, 230),
  (1847, 1849, 1, 220), (1850, 1850, 1, 230), (1851, 1852, 1, 220), (1853, 1853, 1, 230),
  (1854, 1854, 1, 220), (1855, 1857, 1, 230), (1858, 1858, 1, 220), (1859, 1859, 1, 230),
  (1860, 1860, 1, 220), (1861, 1861, 1, 230), (1862, 1862, 1, 220), (1863, 1863, 1, 230),
  (1864, 1864, 1, 220), (1865, 1866, 1, 230), (1958, 1968, 1, 0), (2027, 2033, 1, 230),
  (2034, 2034, 1, 220), (2035, 2035, 1, 230), (2045, 2045, 1, 220), (2070, 2073, 1, 230),
  (2075, 2083, 1, 230), (2085, 2087, 1, 230), (2089, 2093, 1, 230), (2137, 2139, 1, 220),
  (2200, 2200, 1, 230), (2201, 2203, 1, 220), (2204, 2207, 1, 230), (2250, 2254, 1, 230),
  (2255, 2259, 1, 220), (2260, 2273, 1, 230), (2275, 2275, 1, 220), (2276, 2277, 1, 230),
  (2278, 2278, 1, 220), (2279, 2280, 1, 230), (2281, 2281, 1, 220), (2282, 2284, 1, 230),
  (2285, 2287, 1, 220), (2288, 2288, 1, 27), (2289, 2289, 1, 28), (2290, 2290, 1, 29),
  (2291, 2293, 1, 230), (2294, 2294, 1, 220), (2295, 2296, 1, 230), (2297, 2298, 1, 220),
  (2299, 2303, 1, 230), (2304, 2306, 1, 0), (2362, 2362, 1, 0), (2364, 2364, 1, 7),
  (2369, 2376, 1, 0), (2381, 2381, 1, 9), (2385, 2385, 1, 230), (2386, 2386, 1, 220),
  (2387, 2388, 1, 230), (2389, 2391, 1, 0), (2402, 2403, 1, 0), (2433, 2433, 1, 0),
  (2492, 2492, 1, 7), (2497, 2500, 1, 0), (2509, 2509, 1, 9), (2530, 2531, 1, 0),
  (2558, 2558, 1, 230), (2561, 2562, 1, 0), (2620, 2620, 1, 7), (2625, 2626, 1, 0),
  (2631, 2632, 1, 0), (2635, 2636, 1, 0), (2637, 2637, 1, 9), (2641, 2641, 1, 0),
  (2672, 2673, 1, 0), (2677, 2677, 1, 0), (2689, 2690, 1, 0), (2748, 2748, 1, 7),
  (2753, 2757, 1, 0), (2759, 2760, 1, 0), (2765, 2765, 1, 9), (2786, 2787, 1, 0),
  (2810, 2815, 1, 0), (2817, 2817, 1, 0), (2876, 2876, 1, 7), (2879, 2879, 1, 0),
  (2881, 2884, 1, 0), (2893, 2893, 1, 9), (2901, 2902, 1, 0), (2914, 2915, 1, 0),
  (2946, 2946, 1, 0), (3008, 3008, 1, 0), (3021, 3021, 1, 9), (3072, 3072, 1, 0),
  (3076, 3076, 1, 0), (3132, 3132, 1, 7), (3134, 3136, 1, 0), (3142, 3144, 1, 0),
  (3146, 3148, 1, 0), (3149, 3149, 1, 9), (3157, 3157, 1, 84), (3158, 3158, 1, 91),
  (3170, 3171, 1, 0), (3201, 3201, 1, 0), (3260, 3260, 1, 7), (3276, 3276, 1, 0),
  (3277, 3277, 1, 9), (3298, 3299, 1, 0), (3328, 3329, 1, 0), (3387, 3388, 1, 9),
  (3393, 3396, 1, 0), (3405, 3405, 1, 9), (3426, 3427, 1, 0), (3457, 3457, 1, 0),
  (3530, 3530, 1, 9), (3538, 3540, 1, 0), (3542, 3542, 1, 0), (3633, 3633, 1, 0),
  (3636, 3639, 1, 0), (3640, 3641, 1, 103), (3642, 3642, 1, 9), (3655, 3655, 1, 0),
  (3656, 3659, 1, 107), (3660, 3662, 1, 0), (3761, 3761, 1, 0), (3764, 3767, 1, 0),
  (3768, 3769, 1, 118), (3770, 3770, 1, 9), (3771, 3772, 1, 0), (3784, 3787, 1, 122),
  (3788, 3789, 1, 0), (3864, 3865, 1, 220), (3893, 3893, 1, 220), (3895, 3895, 1, 220),
  (3897, 3897, 1, 216), (3953, 3953, 1, 129), (3954, 3954, 1, 130), (3956, 3956, 1, 132),
  (3962, 3965, 1, 130), (3966, 3966, 1, 0), (3968, 3968, 1, 130), (3970, 3971, 1, 230),
  (3972, 3972, 1, 9), (3974, 3975, 1, 230), (3981, 3986, 1, 0), (3988, 3991, 1, 0),
  (3993, 3996, 1, 0), (3998, 4001, 1, 0), (4003, 4006, 1, 0), (4008, 4011, 1, 0),
  (4013, 4024, 1, 0), (4026, 4028, 1, 0), (4038, 4038, 1, 220), (4141, 4144, 1, 0),
  (4146, 4150, 1, 0), (4151, 4151, 1, 7), (4153, 4154, 1, 9), (4157, 4158, 1, 0),
  (4184, 4185, 1, 0), (4190, 4192, 1, 0), (4209, 4212, 1, 0), (4226, 4226, 1, 0),
  (4229, 4230, 1, 0), (4237, 4237, 1, 220), (4253, 4253, 1, 0), (4957, 4959, 1, 230),
  (5906, 5907, 1, 0), (5908, 5908, 1, 9), (5938, 5939, 1, 0), (5970, 5971, 1, 0),
  (6002, 6003, 1, 0), (6071, 6077, 1, 0), (6086, 6086, 1, 0), (6089, 6097, 1, 0),
  (6098, 6098, 1, 9), (6099, 6099, 1, 0), (6109, 6109, 1, 230), (6277, 6278, 1, 0),
  (6313, 6313, 1, 228), (6432, 6434, 1, 0), (6439, 6440, 1, 0), (6450, 6450, 1, 0),
  (6457, 6457, 1, 222), (6458, 6458, 1, 230), (6459, 6459, 1, 220), (6679, 6679, 1, 230),
  (6680, 6680, 1, 220), (6683, 6683, 1, 0), (6742, 6742, 1, 0), (6744, 6750, 1, 0),
  (6752, 6752, 1, 9), (6754, 6754, 1, 0), (6757, 6764, 1, 0), (6771, 6772, 1, 0),
  (6773, 6780, 1, 230), (6783, 6783, 1, 220), (6832, 6836, 1, 230), (6837, 6842, 1, 220),
  (6843, 6844, 1, 230), (6845, 6845, 1, 220), (6847, 6848, 1, 220), (6849, 6850, 1, 230),
  (6851, 6852, 1, 220), (6853, 6857, 1, 230), (6858, 6858, 1, 220), (6859, 6862, 1, 230),
  (6912, 6915, 1, 0), (6964, 6964, 1, 7), (6966, 6970, 1, 0), (6972, 6972, 1, 0),
  (6978, 6978, 1, 0), (7019, 7019, 1, 230), (7020, 7020, 1, 220), (7021, 7027, 1, 230),
  (7040, 7041, 1, 0), (7074, 7077, 1, 0), (7080, 7081, 1, 0), (7083, 7083, 1, 9),
  (7084, 7085, 1, 0), (7142, 7142, 1, 7), (7144, 7145, 1, 0), (7149, 7149, 1, 0),
  (7151, 7153, 1, 0), (7212, 7219, 1, 0), (7222, 7222, 1, 0), (7223, 7223, 1, 7),
  (7376, 7378, 1, 230), (7380, 7380, 1, 1), (7381, 7385, 1, 220), (7386, 7387, 1, 230),
  (7388, 7391, 1, 220), (7392, 7392, 1, 230), (7394, 7400, 1, 1), (7405, 7405, 1, 220),
  (7412, 7412, 1, 230), (7416, 7417, 1, 230), (7616, 7617, 1, 230), (7618, 7618, 1, 220),
  (7619, 7625, 1, 230), (7626, 7626, 1, 220), (7627, 7628, 1, 230), (7629, 7629, 1, 234),
  (7630, 7630, 1, 214), (7631, 7631, 1, 220), (7632, 7632, 1, 202), (7633, 7669, 1, 230),
  (7670, 7670, 1, 232), (7671, 7672, 1, 228), (7673, 7673, 1, 220), (7674, 7674, 1, 218),
  (7675, 7675, 1, 230), (7676, 7676, 1, 233), (7677, 7677, 1, 220), (7678, 7678, 1, 230),
  (7679, 7679, 1, 220), (11503, 11505, 1, 230), (11647, 11647, 1, 9), (11744, 11775, 1, 230),
  (12330, 12330, 1, 218), (12331, 12331, 1, 228), (12332, 12332, 1, 232), (12333, 12333, 1, 222),
  (12441, 12442, 1, 8), (42607, 42607, 1, 230), (42612, 42621, 1, 230), (42654, 42655, 1, 230),
  (42736, 42737, 1, 230), (43010, 43010, 1, 0), (43014, 43014, 1, 9), (43019, 43019, 1, 0),
  (43045, 43046, 1, 0), (43052, 43052, 1, 9), (43204, 43204, 1, 9), (43205, 43205, 1, 0),
  (43232, 43249, 1, 230), (43263, 43263, 1, 0), (43302, 43306, 1, 0), (43307, 43309, 1, 220),
  (43335, 43345, 1, 0), (43392, 43394, 1, 0), (43443, 43443, 1, 7), (43446, 43449, 1, 0),
  (43452, 43453, 1, 0), (43493, 43493, 1, 0), (43561, 43566, 1, 0), (43569, 43570, 1, 0),
  (43573, 43574, 1, 0), (43587, 43587, 1, 0), (43596, 43596, 1, 0), (43644, 43644, 1, 0),
  (43696, 43696, 1, 230), (43698, 43699, 1, 230), (43700, 43700, 1, 220), (43703, 43704, 1, 230),
  (43710, 43711, 1, 230), (43713, 43713, 1, 230), (43756, 43757, 1, 0), (43766, 43766, 1, 9),
  (44005, 44005, 1, 0), (44008, 44008, 1, 0), (44013, 44013, 1, 9), (64286, 64286, 1, 26),
  (65056, 65062, 1, 230), (65063, 65069, 1, 220), (65070, 65071, 1, 230), (66045, 66045, 1, 220),
  (66272, 66272, 1, 220), (66422, 66426, 1, 230), (68097, 68099, 1, 0), (68101, 68102, 1, 0),
  (68108, 68108, 1, 0), (68109, 68109, 1, 220), (68110, 68110, 1, 0), (68111, 68111, 1, 230),
  (68152, 68152, 1, 230), (68153, 68153, 1, 1), (68154, 68154, 1, 220), (68159, 68159, 1, 9),
  (68325, 68325, 1, 230), (68326, 68326, 1, 220), (68900, 68903, 1, 230), (69291, 69292, 1, 230),
  (69446, 69447, 1, 220), (69448, 69450, 1, 230), (69451, 69451, 1, 220), (69452, 69452, 1, 230),
  (69453, 69456, 1, 220), (69506, 69506, 1, 230), (69507, 69507, 1, 220), (69508, 69508, 1, 230),
  (69509, 69509, 1, 220), (69633, 69633, 1, 0), (69688, 69701, 1, 0), (69702, 69702, 1, 9),
  (69744, 69744, 1, 9), (69747, 69748, 1, 0), (69759, 69759, 1, 9), (69760, 69761, 1, 0),
  (69811, 69814, 1, 0), (69817, 69817, 1, 9), (69818, 69818, 1, 7), (69826, 69826, 1, 0),
  (69888, 69890, 1, 230), (69927, 69931, 1, 0), (69933, 69938, 1, 0), (69939, 69940, 1, 9),
  (70003, 70003, 1, 7), (70016, 70017, 1, 0), (70070, 70078, 1, 0), (70089, 70089, 1, 0),
  (70090, 70090, 1, 7), (70091, 70092, 1, 0), (70095, 70095, 1, 0), (70191, 70193, 1, 0),
  (70196, 70196, 1, 0), (70198, 70198, 1, 7), (70199, 70199, 1, 0), (70206, 70206, 1, 0),
  (70367, 70367, 1, 0), (70371, 70376, 1, 0), (70377, 70377, 1, 7), (70378, 70378, 1, 9),
  (70400, 70401, 1, 0), (70459, 70460, 1, 7), (70464, 70464, 1, 0), (70502, 70508, 1, 230),
  (70512, 70516, 1, 230), (70712, 70719, 1, 0), (70722, 70722, 1, 9), (70723, 70724, 1, 0),
  (70726, 70726, 1, 7), (70750, 70750, 1, 230), (70835, 70840, 1, 0), (70842, 70842, 1, 0),
  (70847, 70848, 1, 0), (70850, 70850, 1, 9), (70851, 70851, 1, 7), (71090, 71093, 1, 0),
  (71100, 71101, 1, 0), (71103, 71103, 1, 9), (71104, 71104, 1, 7), (71132, 71133, 1, 0),
  (71219, 71226, 1, 0), (71229, 71229, 1, 0), (71231, 71231, 1, 9), (71232, 71232, 1, 0),
  (71339, 71339, 1, 0), (71341, 71341, 1, 0), (71344, 71349, 1, 0), (71351, 71351, 1, 7),
  (71453, 71455, 1, 0), (71458, 71461, 1, 0), (71463, 71466, 1, 0), (71467, 71467, 1, 9),
  (71727, 71735, 1, 0), (71737, 71737, 1, 9), (71738, 71738, 1, 7), (71995, 71996, 1, 0),
  (71998, 71998, 1, 9), (72003, 72003, 1, 7), (72148, 72151, 1, 0), (72154, 72155, 1, 0),
  (72160, 72160, 1, 9), (72193, 72198, 1, 0), (72201, 72202, 1, 0), (72243, 72243, 1, 0),
  (72244, 72244, 1, 9), (72245, 72248, 1, 0), (72251, 72254, 1, 0), (72263, 72263, 1, 9),
  (72273, 72278, 1, 0), (72281, 72283, 1, 0), (72330, 72342, 1, 0), (72344, 72344, 1, 0),
  (72345, 72345, 1, 9), (72752, 72758, 1, 0), (72760, 72765, 1, 0), (72850, 72871, 1, 0),
  (72874, 72880, 1, 0), (72882, 72883, 1, 0), (72885, 72886, 1, 0), (73009, 73014, 1, 0),
  (73018, 73018, 1, 0), (73020, 73021, 1, 0), (73023, 73025, 1, 0), (73026, 73026, 1, 7),
  (73027, 73027, 1, 0), (73028, 73029, 1, 9), (73031, 73031, 1, 0), (73104, 73105, 1, 0),
  (73109, 73109, 1, 0), (73111, 73111, 1, 9), (73459, 73460, 1, 0), (92912, 92916, 1, 1),
  (92976, 92982, 1, 230), (94031, 94031, 1, 0), (94095, 94098, 1, 0), (94180, 94180, 1, 0),
  (113821, 113821, 1, 0), (113822, 113822, 1, 1), (118528, 118573, 1, 0), (118576, 118598, 1, 0),
  (121344, 121398, 1, 0), (121403, 121452, 1, 0), (121461, 121461, 1, 0), (121476, 121476, 1, 0),
  (121499, 121503, 1, 0), (121505, 121519, 1, 0), (122880, 122886, 1, 230),
  (122888, 122904, 1, 230), (122907, 122913, 1, 230), (122915, 122916, 1, 230),
  (122918, 122922, 1, 230), (123184, 123190, 1, 230), (123566, 123566, 1, 230),
  (123628, 123631, 1, 230), (125136, 125142, 1, 220), (125252, 125257, 1, 230),
  (125258, 125258, 1, 7)]

/-- Marks that take room, in runs with their class. -/
def spacingMarks : List (Nat × Nat × Nat × Nat) := [
  (2307, 2307, 1, 0), (2363, 2363, 1, 0), (2366, 2368, 1, 0), (2377, 2380, 1, 0),
  (2382, 2383, 1, 0), (2434, 2435, 1, 0), (2494, 2496, 1, 0), (2503, 2504, 1, 0),
  (2507, 2508, 1, 0), (2519, 2519, 1, 0), (2563, 2563, 1, 0), (2622, 2624, 1, 0),
  (2691, 2691, 1, 0), (2750, 2752, 1, 0), (2761, 2761, 1, 0), (2763, 2764, 1, 0),
  (2818, 2819, 1, 0), (2878, 2878, 1, 0), (2880, 2880, 1, 0), (2887, 2888, 1, 0),
  (2891, 2892, 1, 0), (2903, 2903, 1, 0), (3006, 3007, 1, 0), (3009, 3010, 1, 0),
  (3014, 3016, 1, 0), (3018, 3020, 1, 0), (3031, 3031, 1, 0), (3073, 3075, 1, 0),
  (3137, 3140, 1, 0), (3202, 3203, 1, 0), (3262, 3268, 1, 0), (3270, 3272, 1, 0),
  (3274, 3275, 1, 0), (3285, 3286, 1, 0), (3330, 3331, 1, 0), (3390, 3392, 1, 0),
  (3398, 3400, 1, 0), (3402, 3404, 1, 0), (3415, 3415, 1, 0), (3458, 3459, 1, 0),
  (3535, 3537, 1, 0), (3544, 3551, 1, 0), (3570, 3571, 1, 0), (3902, 3903, 1, 0),
  (3967, 3967, 1, 0), (4139, 4140, 1, 0), (4145, 4145, 1, 0), (4152, 4152, 1, 0),
  (4155, 4156, 1, 0), (4182, 4183, 1, 0), (4194, 4196, 1, 0), (4199, 4205, 1, 0),
  (4227, 4228, 1, 0), (4231, 4236, 1, 0), (4239, 4239, 1, 0), (4250, 4252, 1, 0),
  (5909, 5909, 1, 9), (5940, 5940, 1, 9), (6070, 6070, 1, 0), (6078, 6085, 1, 0),
  (6087, 6088, 1, 0), (6435, 6438, 1, 0), (6441, 6443, 1, 0), (6448, 6449, 1, 0),
  (6451, 6456, 1, 0), (6681, 6682, 1, 0), (6741, 6741, 1, 0), (6743, 6743, 1, 0),
  (6753, 6753, 1, 0), (6755, 6756, 1, 0), (6765, 6770, 1, 0), (6916, 6916, 1, 0),
  (6965, 6965, 1, 0), (6971, 6971, 1, 0), (6973, 6977, 1, 0), (6979, 6979, 1, 0),
  (6980, 6980, 1, 9), (7042, 7042, 1, 0), (7073, 7073, 1, 0), (7078, 7079, 1, 0),
  (7082, 7082, 1, 9), (7143, 7143, 1, 0), (7146, 7148, 1, 0), (7150, 7150, 1, 0),
  (7154, 7155, 1, 9), (7204, 7211, 1, 0), (7220, 7221, 1, 0), (7393, 7393, 1, 0),
  (7415, 7415, 1, 0), (43043, 43044, 1, 0), (43047, 43047, 1, 0), (43136, 43137, 1, 0),
  (43188, 43203, 1, 0), (43346, 43346, 1, 0), (43347, 43347, 1, 9), (43395, 43395, 1, 0),
  (43444, 43445, 1, 0), (43450, 43451, 1, 0), (43454, 43455, 1, 0), (43456, 43456, 1, 9),
  (43567, 43568, 1, 0), (43571, 43572, 1, 0), (43597, 43597, 1, 0), (43643, 43643, 1, 0),
  (43645, 43645, 1, 0), (43755, 43755, 1, 0), (43758, 43759, 1, 0), (43765, 43765, 1, 0),
  (44003, 44004, 1, 0), (44006, 44007, 1, 0), (44009, 44010, 1, 0), (44012, 44012, 1, 0),
  (69632, 69632, 1, 0), (69634, 69634, 1, 0), (69762, 69762, 1, 0), (69808, 69810, 1, 0),
  (69815, 69816, 1, 0), (69932, 69932, 1, 0), (69957, 69958, 1, 0), (70018, 70018, 1, 0),
  (70067, 70069, 1, 0), (70079, 70079, 1, 0), (70080, 70080, 1, 9), (70094, 70094, 1, 0),
  (70188, 70190, 1, 0), (70194, 70195, 1, 0), (70197, 70197, 1, 9), (70368, 70370, 1, 0),
  (70402, 70403, 1, 0), (70462, 70463, 1, 0), (70465, 70468, 1, 0), (70471, 70472, 1, 0),
  (70475, 70476, 1, 0), (70477, 70477, 1, 9), (70487, 70487, 1, 0), (70498, 70499, 1, 0),
  (70709, 70711, 1, 0), (70720, 70721, 1, 0), (70725, 70725, 1, 0), (70832, 70834, 1, 0),
  (70841, 70841, 1, 0), (70843, 70846, 1, 0), (70849, 70849, 1, 0), (71087, 71089, 1, 0),
  (71096, 71099, 1, 0), (71102, 71102, 1, 0), (71216, 71218, 1, 0), (71227, 71228, 1, 0),
  (71230, 71230, 1, 0), (71340, 71340, 1, 0), (71342, 71343, 1, 0), (71350, 71350, 1, 9),
  (71456, 71457, 1, 0), (71462, 71462, 1, 0), (71724, 71726, 1, 0), (71736, 71736, 1, 0),
  (71984, 71989, 1, 0), (71991, 71992, 1, 0), (71997, 71997, 1, 9), (72000, 72000, 1, 0),
  (72002, 72002, 1, 0), (72145, 72147, 1, 0), (72156, 72159, 1, 0), (72164, 72164, 1, 0),
  (72199, 72200, 1, 0), (72249, 72249, 1, 0), (72279, 72280, 1, 0), (72343, 72343, 1, 0),
  (72751, 72751, 1, 0), (72766, 72766, 1, 0), (72767, 72767, 1, 9), (72873, 72873, 1, 0),
  (72881, 72881, 1, 0), (72884, 72884, 1, 0), (73098, 73102, 1, 0), (73107, 73108, 1, 0),
  (73110, 73110, 1, 0), (73461, 73462, 1, 0), (94033, 94087, 1, 0), (94192, 94193, 1, 6)]

/-- Composed characters, each with the two that it is composed of. -/
def compositions : List (Nat × Nat × Nat) := [
  (224, 97, 768), (225, 97, 769), (226, 97, 770), (227, 97, 771), (228, 97, 776), (229, 97, 778),
  (231, 99, 807), (232, 101, 768), (233, 101, 769), (234, 101, 770), (235, 101, 776),
  (236, 105, 768), (237, 105, 769), (238, 105, 770), (239, 105, 776), (241, 110, 771),
  (242, 111, 768), (243, 111, 769), (244, 111, 770), (245, 111, 771), (246, 111, 776),
  (249, 117, 768), (250, 117, 769), (251, 117, 770), (252, 117, 776), (253, 121, 769),
  (255, 121, 776), (257, 97, 772), (259, 97, 774), (261, 97, 808), (263, 99, 769), (265, 99, 770),
  (267, 99, 775), (269, 99, 780), (271, 100, 780), (275, 101, 772), (277, 101, 774),
  (279, 101, 775), (281, 101, 808), (283, 101, 780), (285, 103, 770), (287, 103, 774),
  (289, 103, 775), (291, 103, 807), (293, 104, 770), (297, 105, 771), (299, 105, 772),
  (301, 105, 774), (303, 105, 808), (309, 106, 770), (311, 107, 807), (314, 108, 769),
  (316, 108, 807), (318, 108, 780), (324, 110, 769), (326, 110, 807), (328, 110, 780),
  (333, 111, 772), (335, 111, 774), (337, 111, 779), (341, 114, 769), (343, 114, 807),
  (345, 114, 780), (347, 115, 769), (349, 115, 770), (351, 115, 807), (353, 115, 780),
  (355, 116, 807), (357, 116, 780), (361, 117, 771), (363, 117, 772), (365, 117, 774),
  (367, 117, 778), (369, 117, 779), (371, 117, 808), (373, 119, 770), (375, 121, 770),
  (378, 122, 769), (380, 122, 775), (382, 122, 780), (417, 111, 795), (432, 117, 795),
  (462, 97, 780), (464, 105, 780), (466, 111, 780), (468, 117, 780), (470, 252, 772),
  (472, 252, 769), (474, 252, 780), (476, 252, 768), (479, 228, 772), (481, 551, 772),
  (483, 230, 772), (487, 103, 780), (489, 107, 780), (491, 111, 808), (493, 491, 772),
  (495, 658, 780), (496, 106, 780), (501, 103, 769), (505, 110, 768), (507, 229, 769),
  (509, 230, 769), (511, 248, 769), (513, 97, 783), (515, 97, 785), (517, 101, 783),
  (519, 101, 785), (521, 105, 783), (523, 105, 785), (525, 111, 783), (527, 111, 785),
  (529, 114, 783), (531, 114, 785), (533, 117, 783), (535, 117, 785), (537, 115, 806),
  (539, 116, 806), (543, 104, 780), (551, 97, 775), (553, 101, 807), (555, 246, 772),
  (557, 245, 772), (559, 111, 775), (561, 559, 772), (563, 121, 772), (912, 970, 769),
  (940, 945, 769), (941, 949, 769), (942, 951, 769), (943, 953, 769), (944, 971, 769),
  (970, 953, 776), (971, 965, 776), (972, 959, 769), (973, 965, 769), (974, 969, 769),
  (1081, 1080, 774), (1104, 1077, 768), (1105, 1077, 776), (1107, 1075, 769), (1111, 1110, 776),
  (1116, 1082, 769), (1117, 1080, 768), (1118, 1091, 774), (1143, 1141, 783), (1218, 1078, 774),
  (1233, 1072, 774), (1235, 1072, 776), (1239, 1077, 774), (1243, 1241, 776), (1245, 1078, 776),
  (1247, 1079, 776), (1251, 1080, 772), (1253, 1080, 776), (1255, 1086, 776), (1259, 1257, 776),
  (1261, 1101, 776), (1263, 1091, 772), (1265, 1091, 776), (1267, 1091, 779), (1269, 1095, 776),
  (1273, 1099, 776), (1570, 1575, 1619), (1571, 1575, 1620), (1572, 1608, 1620), (1573, 1575, 1621),
  (1574, 1610, 1620), (1728, 1749, 1620), (1730, 1729, 1620), (1747, 1746, 1620),
  (2345, 2344, 2364), (2353, 2352, 2364), (2356, 2355, 2364), (2507, 2503, 2494),
  (2508, 2503, 2519), (2888, 2887, 2902), (2891, 2887, 2878), (2892, 2887, 2903),
  (2964, 2962, 3031), (3018, 3014, 3006), (3019, 3015, 3006), (3020, 3014, 3031),
  (3144, 3142, 3158), (3264, 3263, 3285), (3271, 3270, 3285), (3272, 3270, 3286),
  (3274, 3270, 3266), (3275, 3274, 3285), (3402, 3398, 3390), (3403, 3399, 3390),
  (3404, 3398, 3415), (3546, 3545, 3530), (3548, 3545, 3535), (3549, 3548, 3530),
  (3550, 3545, 3551), (4134, 4133, 4142), (6918, 6917, 6965), (6920, 6919, 6965),
  (6922, 6921, 6965), (6924, 6923, 6965), (6926, 6925, 6965), (6930, 6929, 6965),
  (6971, 6970, 6965), (6973, 6972, 6965), (6976, 6974, 6965), (6977, 6975, 6965),
  (6979, 6978, 6965), (7681, 97, 805), (7683, 98, 775), (7685, 98, 803), (7687, 98, 817),
  (7689, 231, 769), (7691, 100, 775), (7693, 100, 803), (7695, 100, 817), (7697, 100, 807),
  (7699, 100, 813), (7701, 275, 768), (7703, 275, 769), (7705, 101, 813), (7707, 101, 816),
  (7709, 553, 774), (7711, 102, 775), (7713, 103, 772), (7715, 104, 775), (7717, 104, 803),
  (7719, 104, 776), (7721, 104, 807), (7723, 104, 814), (7725, 105, 816), (7727, 239, 769),
  (7729, 107, 769), (7731, 107, 803), (7733, 107, 817), (7735, 108, 803), (7737, 7735, 772),
  (7739, 108, 817), (7741, 108, 813), (7743, 109, 769), (7745, 109, 775), (7747, 109, 803),
  (7749, 110, 775), (7751, 110, 803), (7753, 110, 817), (7755, 110, 813), (7757, 245, 769),
  (7759, 245, 776), (7761, 333, 768), (7763, 333, 769), (7765, 112, 769), (7767, 112, 775),
  (7769, 114, 775), (7771, 114, 803), (7773, 7771, 772), (7775, 114, 817), (7777, 115, 775),
  (7779, 115, 803), (7781, 347, 775), (7783, 353, 775), (7785, 7779, 775), (7787, 116, 775),
  (7789, 116, 803), (7791, 116, 817), (7793, 116, 813), (7795, 117, 804), (7797, 117, 816),
  (7799, 117, 813), (7801, 361, 769), (7803, 363, 776), (7805, 118, 771), (7807, 118, 803),
  (7809, 119, 768), (7811, 119, 769), (7813, 119, 776), (7815, 119, 775), (7817, 119, 803),
  (7819, 120, 775), (7821, 120, 776), (7823, 121, 775), (7825, 122, 770), (7827, 122, 803),
  (7829, 122, 817), (7830, 104, 817), (7831, 116, 776), (7832, 119, 778), (7833, 121, 778),
  (7841, 97, 803), (7843, 97, 777), (7845, 226, 769), (7847, 226, 768), (7849, 226, 777),
  (7851, 226, 771), (7853, 7841, 770), (7855, 259, 769), (7857, 259, 768), (7859, 259, 777),
  (7861, 259, 771), (7863, 7841, 774), (7865, 101, 803), (7867, 101, 777), (7869, 101, 771),
  (7871, 234, 769), (7873, 234, 768), (7875, 234, 777), (7877, 234, 771), (7879, 7865, 770),
  (7881, 105, 777), (7883, 105, 803), (7885, 111, 803), (7887, 111, 777), (7889, 244, 769),
  (7891, 244, 768), (7893, 244, 777), (7895, 244, 771), (7897, 7885, 770), (7899, 417, 769),
  (7901, 417, 768), (7903, 417, 777), (7905, 417, 771), (7907, 417, 803), (7909, 117, 803),
  (7911, 117, 777), (7913, 432, 769), (7915, 432, 768), (7917, 432, 777), (7919, 432, 771),
  (7921, 432, 803), (7923, 121, 768), (7925, 121, 803), (7927, 121, 777), (7929, 121, 771),
  (7936, 945, 787), (7937, 945, 788), (7938, 7936, 768), (7939, 7937, 768), (7940, 7936, 769),
  (7941, 7937, 769), (7942, 7936, 834), (7943, 7937, 834), (7952, 949, 787), (7953, 949, 788),
  (7954, 7952, 768), (7955, 7953, 768), (7956, 7952, 769), (7957, 7953, 769), (7968, 951, 787),
  (7969, 951, 788), (7970, 7968, 768), (7971, 7969, 768), (7972, 7968, 769), (7973, 7969, 769),
  (7974, 7968, 834), (7975, 7969, 834), (7984, 953, 787), (7985, 953, 788), (7986, 7984, 768),
  (7987, 7985, 768), (7988, 7984, 769), (7989, 7985, 769), (7990, 7984, 834), (7991, 7985, 834),
  (8000, 959, 787), (8001, 959, 788), (8002, 8000, 768), (8003, 8001, 768), (8004, 8000, 769),
  (8005, 8001, 769), (8016, 965, 787), (8017, 965, 788), (8018, 8016, 768), (8019, 8017, 768),
  (8020, 8016, 769), (8021, 8017, 769), (8022, 8016, 834), (8023, 8017, 834), (8032, 969, 787),
  (8033, 969, 788), (8034, 8032, 768), (8035, 8033, 768), (8036, 8032, 769), (8037, 8033, 769),
  (8038, 8032, 834), (8039, 8033, 834), (8048, 945, 768), (8050, 949, 768), (8052, 951, 768),
  (8054, 953, 768), (8056, 959, 768), (8058, 965, 768), (8060, 969, 768), (8112, 945, 774),
  (8113, 945, 772), (8118, 945, 834), (8134, 951, 834), (8144, 953, 774), (8145, 953, 772),
  (8146, 970, 768), (8150, 953, 834), (8151, 970, 834), (8160, 965, 774), (8161, 965, 772),
  (8162, 971, 768), (8164, 961, 787), (8165, 961, 788), (8166, 965, 834), (8167, 971, 834),
  (8182, 969, 834), (12364, 12363, 12441), (12366, 12365, 12441), (12368, 12367, 12441),
  (12370, 12369, 12441), (12372, 12371, 12441), (12374, 12373, 12441), (12376, 12375, 12441),
  (12378, 12377, 12441), (12380, 12379, 12441), (12382, 12381, 12441), (12384, 12383, 12441),
  (12386, 12385, 12441), (12389, 12388, 12441), (12391, 12390, 12441), (12393, 12392, 12441),
  (12400, 12399, 12441), (12401, 12399, 12442), (12403, 12402, 12441), (12404, 12402, 12442),
  (12406, 12405, 12441), (12407, 12405, 12442), (12409, 12408, 12441), (12410, 12408, 12442),
  (12412, 12411, 12441), (12413, 12411, 12442), (12436, 12358, 12441), (12446, 12445, 12441),
  (12460, 12459, 12441), (12462, 12461, 12441), (12464, 12463, 12441), (12466, 12465, 12441),
  (12468, 12467, 12441), (12470, 12469, 12441), (12472, 12471, 12441), (12474, 12473, 12441),
  (12476, 12475, 12441), (12478, 12477, 12441), (12480, 12479, 12441), (12482, 12481, 12441),
  (12485, 12484, 12441), (12487, 12486, 12441), (12489, 12488, 12441), (12496, 12495, 12441),
  (12497, 12495, 12442), (12499, 12498, 12441), (12500, 12498, 12442), (12502, 12501, 12441),
  (12503, 12501, 12442), (12505, 12504, 12441), (12506, 12504, 12442), (12508, 12507, 12441),
  (12509, 12507, 12442), (12532, 12454, 12441), (12535, 12527, 12441), (12536, 12528, 12441),
  (12537, 12529, 12441), (12538, 12530, 12441), (12542, 12541, 12441), (69786, 69785, 69818),
  (69788, 69787, 69818), (69803, 69797, 69818), (69934, 69937, 69927), (69935, 69938, 69927),
  (70475, 70471, 70462), (70476, 70471, 70487), (70843, 70841, 70842), (70844, 70841, 70832),
  (70846, 70841, 70845), (71098, 71096, 71087), (71099, 71097, 71087), (71992, 71989, 71984)]

/-- The class of a mark; letters and marks without a class have zero. -/
def markClass (c : Char) : Nat :=
  ((runValue? nonspacingMarks c).or (runValue? spacingMarks c)).getD 0

def isNonspacing (c : Char) : Bool := (runValue? nonspacingMarks c).isSome

def isMark (c : Char) : Bool := isNonspacing c || (runValue? spacingMarks c).isSome

/-- The class of the marks that take the vowel off a consonant. -/
def vowelKillerClass : Nat := 9

/-- The characters that a character is composed of. A composed character may begin with another one,
which so many steps take apart. -/
def decomposeIn : Nat → Char → List Char
  | 0, c => [c]
  | steps + 1, c =>
    match compositions.find? (·.1 == c.toNat) with
    | some (_, first, second) => decomposeIn steps (Char.ofNat first) ++ [Char.ofNat second]
    | none => [c]

/-- The characters that a character is composed of; none has more than three marks. -/
def decompose (c : Char) : List Char := decomposeIn 3 c

/-- The character that two characters compose. -/
def compose? (first second : Char) : Option Char :=
  (compositions.find? fun (_, a, b) => a == first.toNat && b == second.toNat).map
    fun (composed, _) => Char.ofNat composed

/-- Puts a character behind others, but marks with a class in front of those of a greater class. The
row is given from the last character on. -/
def insertMark (c : Char) : List Char → List Char
  | [] => [c]
  | d :: before =>
    if markClass c ≠ 0 ∧ markClass c < markClass d then d :: insertMark c before
    else c :: d :: before

/-- Characters with the marks behind each letter in the order of their classes. -/
def inMarkOrder (row : List Char) : List Char :=
  (row.foldl (fun before c => insertMark c before) []).reverse

/-- Composes a letter with the characters behind it. The marks that stay apart are given from the
last one on; one of them keeps those of its own class away from the letter. -/
def composeFrom (letter : Char) (apart : List Char) : List Char → List Char
  | [] => letter :: apart.reverse
  | c :: rest =>
    let reaches := match apart with
      | [] => true
      | last :: _ => markClass last < markClass c
    match if reaches then compose? letter c else none with
    | some composed => composeFrom composed apart rest
    | none =>
      if markClass c = 0 then letter :: apart.reverse ++ composeFrom c [] rest
      else composeFrom letter (c :: apart) rest

/-- The composed spelling of characters. -/
def composed (row : List Char) : List Char :=
  match inMarkOrder (row.flatMap decompose) with
  | [] => []
  | first :: rest => composeFrom first [] rest

/-- Whether characters are in their composed spelling. -/
def isComposed (row : List Char) : Bool := composed row == row

end Trackage.Text
