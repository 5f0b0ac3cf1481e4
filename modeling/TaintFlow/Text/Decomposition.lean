/-!
# Equivalent characters

Unicode's data on which characters are other ways to write the same text, version 17, for the
characters of which identifiers are made. A table of triples gives a value to each code point of a
closed range. A table of rows gives them to the code points that follow each other from the first of
a row on.
-/

namespace TaintFlow.Decomposition

/-- The code points of rows with their values. -/
def ofRows {α : Type} (rows : List (Nat × List α)) : List (Nat × α) :=
  rows.flatMap fun (first, values) => values.zipIdx.map fun (value, i) => (first + i, value)

/-! ## 1. Characters that stand for one other character

The first of a range stands for the third number, and the others for those that follow it. -/

/-- Letters and digits in other shapes. -/
def letters : List (Nat × Nat × Nat) :=
  [(170, 170, 97), (181, 181, 956), (186, 186, 111), (383, 383, 115), (688, 688, 104),
   (689, 689, 614), (690, 690, 106), (691, 691, 114), (692, 692, 633), (693, 693, 635),
   (694, 694, 641), (695, 695, 119), (696, 696, 121), (736, 736, 611), (737, 737, 108),
   (738, 738, 115), (739, 739, 120), (740, 740, 661), (832, 833, 768), (835, 835, 787),
   (884, 884, 697), (903, 903, 183), (976, 976, 946), (977, 977, 952), (978, 978, 933),
   (981, 981, 966), (982, 982, 960), (1008, 1008, 954), (1009, 1010, 961), (1012, 1012, 920),
   (1013, 1013, 949), (1017, 1017, 931), (4348, 4348, 4316), (7468, 7468, 65), (7469, 7469, 198),
   (7470, 7470, 66), (7472, 7473, 68), (7474, 7474, 398), (7475, 7482, 71), (7484, 7484, 79),
   (7485, 7485, 546), (7486, 7486, 80), (7487, 7487, 82), (7488, 7489, 84), (7490, 7490, 87),
   (7491, 7491, 97), (7492, 7493, 592), (7494, 7494, 7426), (7495, 7495, 98), (7496, 7497, 100),
   (7498, 7498, 601), (7499, 7500, 603), (7501, 7501, 103), (7503, 7503, 107), (7504, 7504, 109),
   (7505, 7505, 331), (7506, 7506, 111), (7507, 7507, 596), (7508, 7509, 7446), (7510, 7510, 112),
   (7511, 7512, 116), (7513, 7513, 7453), (7514, 7514, 623), (7515, 7515, 118), (7516, 7516, 7461),
   (7517, 7519, 946), (7520, 7521, 966), (7522, 7522, 105), (7523, 7523, 114), (7524, 7525, 117),
   (7526, 7527, 946), (7528, 7528, 961), (7529, 7530, 966), (7544, 7544, 1085), (7579, 7579, 594),
   (7580, 7580, 99), (7581, 7581, 597), (7582, 7582, 240), (7583, 7583, 604), (7584, 7584, 102),
   (7585, 7585, 607), (7586, 7586, 609), (7587, 7587, 613), (7588, 7590, 616), (7591, 7591, 7547),
   (7592, 7592, 669), (7593, 7593, 621), (7594, 7594, 7557), (7595, 7595, 671), (7596, 7596, 625),
   (7597, 7597, 624), (7598, 7601, 626), (7602, 7602, 632), (7603, 7604, 642), (7605, 7605, 427),
   (7606, 7607, 649), (7608, 7608, 7452), (7609, 7610, 651), (7611, 7611, 122), (7612, 7614, 656),
   (7615, 7615, 952), (8126, 8126, 953), (8305, 8305, 105), (8319, 8319, 110), (8336, 8336, 97),
   (8337, 8337, 101), (8338, 8338, 111), (8339, 8339, 120), (8340, 8340, 601), (8341, 8341, 104),
   (8342, 8345, 107), (8346, 8346, 112), (8347, 8348, 115), (8450, 8450, 67), (8455, 8455, 400),
   (8458, 8458, 103), (8459, 8459, 72), (8460, 8460, 72), (8461, 8461, 72), (8462, 8462, 104),
   (8463, 8463, 295), (8464, 8464, 73), (8465, 8465, 73), (8466, 8466, 76), (8467, 8467, 108),
   (8469, 8469, 78), (8473, 8475, 80), (8476, 8476, 82), (8477, 8477, 82), (8484, 8484, 90),
   (8486, 8486, 937), (8488, 8488, 90), (8490, 8490, 75), (8492, 8493, 66), (8495, 8495, 101),
   (8496, 8497, 69), (8499, 8499, 77), (8500, 8500, 111), (8501, 8504, 1488), (8505, 8505, 105),
   (8508, 8508, 960), (8509, 8509, 947), (8510, 8510, 915), (8511, 8511, 928), (8517, 8517, 68),
   (8518, 8519, 100), (8520, 8521, 105), (8544, 8544, 73), (8548, 8548, 86), (8553, 8553, 88),
   (8556, 8556, 76), (8557, 8558, 67), (8559, 8559, 77), (8560, 8560, 105), (8564, 8564, 118),
   (8569, 8569, 120), (8572, 8572, 108), (8573, 8574, 99), (8575, 8575, 109), (11388, 11388, 106),
   (11389, 11389, 86), (11631, 11631, 11617), (12344, 12344, 21313), (12345, 12346, 21316),
   (12593, 12594, 4352), (12595, 12595, 4522), (12596, 12596, 4354), (12597, 12598, 4524),
   (12599, 12601, 4355), (12602, 12607, 4528), (12608, 12608, 4378), (12609, 12611, 4358),
   (12612, 12612, 4385), (12613, 12622, 4361), (12623, 12643, 4449), (12644, 12644, 4448),
   (12645, 12646, 4372), (12647, 12648, 4551), (12649, 12649, 4556), (12650, 12650, 4558),
   (12651, 12651, 4563), (12652, 12652, 4567), (12653, 12653, 4569), (12654, 12654, 4380),
   (12655, 12655, 4573), (12656, 12656, 4575), (12657, 12658, 4381), (12659, 12659, 4384),
   (12660, 12661, 4386), (12662, 12662, 4391), (12663, 12663, 4393), (12664, 12668, 4395),
   (12669, 12669, 4402), (12670, 12670, 4406), (12671, 12671, 4416), (12672, 12672, 4423),
   (12673, 12673, 4428), (12674, 12675, 4593), (12676, 12678, 4439), (12679, 12680, 4484),
   (12681, 12681, 4488), (12682, 12683, 4497), (12684, 12684, 4500), (12685, 12685, 4510),
   (12686, 12686, 4513), (42652, 42652, 1098), (42653, 42653, 1100), (42864, 42864, 42863),
   (42993, 42993, 83), (42994, 42994, 67), (42995, 42995, 70), (42996, 42996, 81),
   (43000, 43000, 294), (43001, 43001, 339), (43868, 43868, 42791), (43869, 43869, 43831),
   (43870, 43870, 619), (43871, 43871, 43858), (43881, 43881, 653)]

/-- Ideographs that came in from older sets. -/
def ideographs : List (Nat × List Nat) :=
  [(63744, [35912, 26356, 36554, 36040, 28369, 20018, 21477, 40860, 40860, 22865, 37329, 21895,
   22856, 25078, 30313, 32645, 34367, 34746, 35064, 37007, 27138, 27931, 28889, 29662, 33853, 37226,
   39409, 20098, 21365, 27396, 29211, 34349, 40478, 23888, 28651, 34253, 35172, 25289, 33240, 34847,
   24266, 26391, 28010, 29436, 37070, 20358, 20919, 21214, 25796, 27347, 29200, 30439, 32769, 34310,
   34396, 36335, 38706, 39791, 40442, 30860, 31103, 32160, 33737, 37636, 40575, 35542, 22751, 24324,
   31840, 32894, 29282, 30922, 36034, 38647, 22744, 23650, 27155, 28122, 28431, 32047, 32311, 38475,
   21202, 32907, 20956, 20940, 31260, 32190, 33777, 38517, 35712, 25295, 27138, 35582, 20025, 23527,
   24594, 29575, 30064, 21271, 30971, 20415, 24489, 19981, 27852, 25976, 32034, 21443, 22622, 30465,
   33865, 35498, 27578, 36784, 27784, 25342, 33509, 25504, 30053, 20142, 20841, 20937, 26753, 31975,
   33391, 35538, 37327, 21237, 21570, 22899, 24300, 26053, 28670, 31018, 38317, 39530, 40599, 40654,
   21147, 26310, 27511, 36706, 24180, 24976, 25088, 25754, 28451, 29001, 29833, 31178, 32244, 32879,
   36646, 34030, 36899, 37706, 21015, 21155, 21693, 28872, 35010, 35498, 24265, 24565, 25467, 27566,
   31806, 29557, 20196, 22265, 23527, 23994, 24604, 29618, 29801, 32666, 32838, 37428, 38646, 38728,
   38936, 20363, 31150, 37300, 38584, 24801, 20102, 20698, 23534, 23615, 26009, 27138, 29134, 30274,
   34044, 36988, 40845, 26248, 38446, 21129, 26491, 26611, 27969, 28316, 29705, 30041, 30827, 32016,
   39006, 20845, 25134, 38520, 20523, 23833, 28138, 36650, 24459, 24900, 26647, 29575, 38534, 21033,
   21519, 23653, 26131, 26446, 26792, 27877, 29702, 30178, 32633, 35023, 35041, 37324, 38626, 21311,
   28346, 21533, 29136, 29848, 34298, 38563, 40023, 40607, 26519, 28107, 33256, 31435, 31520, 31890,
   29376, 28825, 35672, 20160, 33590, 21050, 20999, 24230, 25299, 31958, 23429, 27934, 26292, 36667,
   34892, 38477, 35211, 24275, 20800, 21952]), (64016, [22618]), (64018, [26228]), (64021, [20958,
   29482, 30410, 31036, 31070, 31077, 31119, 38742, 31934, 32701]), (64032, [34322]), (64034,
   [35576]), (64037, [36920, 37117]), (64042, [39151, 39164, 39208, 40372, 37086, 38583, 20398,
   20711, 20813, 21193, 21220, 21329, 21917, 22022, 22120, 22592, 22696, 23652, 23662, 24724, 24936,
   24974, 25074, 25935, 26082, 26257, 26757, 28023, 28186, 28450, 29038, 29227, 29730, 30865, 31038,
   31049, 31048, 31056, 31062, 31069, 31117, 31118, 31296, 31361, 31680, 32244, 32265, 32321, 32626,
   32773, 33261, 33401, 33401, 33879, 35088, 35222, 35585, 35641, 36051, 36104, 36790, 36920, 38627,
   38911, 38971, 24693, 148206, 33304]), (64112, [20006, 20917, 20840, 20352, 20805, 20864, 21191,
   21242, 21917, 21845, 21913, 21986, 22618, 22707, 22852, 22868, 23138, 23336, 24274, 24281, 24425,
   24493, 24792, 24910, 24840, 24974, 24928, 25074, 25140, 25540, 25628, 25682, 25942, 26228, 26391,
   26395, 26454, 27513, 27578, 27969, 28379, 28363, 28450, 28702, 29038, 30631, 29237, 29359, 29482,
   29809, 29958, 30011, 30237, 30239, 30410, 30427, 30452, 30538, 30528, 30924, 31409, 31680, 31867,
   32091, 32244, 32574, 32773, 33618, 33775, 34681, 35137, 35206, 35222, 35519, 35576, 35531, 35585,
   35582, 35565, 35641, 35722, 36104, 36664, 36978, 37273, 37494, 38524, 38627, 38742, 38875, 38911,
   38923, 38971, 39698, 40860, 141386, 141380, 144341, 15261, 16408, 16441, 152137, 154832, 163539,
   40771, 40846])]

/-- The shapes that a letter takes beside others, and wide and narrow letters. -/
def forms : List (Nat × List Nat) :=
  [(64288, [1506, 1488, 1491, 1492, 1499, 1500, 1501, 1512, 1514]), (64336, [1649, 1649, 1659, 1659,
   1659, 1659, 1662, 1662, 1662, 1662, 1664, 1664, 1664, 1664, 1658, 1658, 1658, 1658, 1663, 1663,
   1663, 1663, 1657, 1657, 1657, 1657, 1700, 1700, 1700, 1700, 1702, 1702, 1702, 1702, 1668, 1668,
   1668, 1668, 1667, 1667, 1667, 1667, 1670, 1670, 1670, 1670, 1671, 1671, 1671, 1671, 1677, 1677,
   1676, 1676, 1678, 1678, 1672, 1672, 1688, 1688, 1681, 1681, 1705, 1705, 1705, 1705, 1711, 1711,
   1711, 1711, 1715, 1715, 1715, 1715, 1713, 1713, 1713, 1713, 1722, 1722, 1723, 1723, 1723, 1723]),
   (64422, [1729, 1729, 1729, 1729, 1726, 1726, 1726, 1726, 1746, 1746]), (64467, [1709, 1709, 1709,
   1709, 1735, 1735, 1734, 1734, 1736, 1736]), (64478, [1739, 1739, 1733, 1733, 1737, 1737, 1744,
   1744, 1744, 1744, 1609, 1609]), (64508, [1740, 1740, 1740, 1740]), (65075, [95, 95]), (65101,
   [95, 95, 95]), (65152, [1569]), (65165, [1575, 1575, 1576, 1576, 1576, 1576, 1577, 1577, 1578,
   1578, 1578, 1578, 1579, 1579, 1579, 1579, 1580, 1580, 1580, 1580, 1581, 1581, 1581, 1581, 1582,
   1582, 1582, 1582, 1583, 1583, 1584, 1584, 1585, 1585, 1586, 1586, 1587, 1587, 1587, 1587, 1588,
   1588, 1588, 1588, 1589, 1589, 1589, 1589, 1590, 1590, 1590, 1590, 1591, 1591, 1591, 1591, 1592,
   1592, 1592, 1592, 1593, 1593, 1593, 1593, 1594, 1594, 1594, 1594, 1601, 1601, 1601, 1601, 1602,
   1602, 1602, 1602, 1603, 1603, 1603, 1603, 1604, 1604, 1604, 1604, 1605, 1605, 1605, 1605, 1606,
   1606, 1606, 1606, 1607, 1607, 1607, 1607, 1608, 1608, 1609, 1609, 1610, 1610, 1610, 1610]),
   (65296, [48, 49, 50, 51, 52, 53, 54, 55, 56, 57]), (65313, [65, 66, 67, 68, 69, 70, 71, 72, 73,
   74, 75, 76, 77, 78, 79, 80, 81, 82, 83, 84, 85, 86, 87, 88, 89, 90]), (65343, [95]), (65345, [97,
   98, 99, 100, 101, 102, 103, 104, 105, 106, 107, 108, 109, 110, 111, 112, 113, 114, 115, 116, 117,
   118, 119, 120, 121, 122]), (65381, [12539, 12530, 12449, 12451, 12453, 12455, 12457, 12515,
   12517, 12519, 12483, 12540, 12450, 12452, 12454, 12456, 12458, 12459, 12461, 12463, 12465, 12467,
   12469, 12471, 12473, 12475, 12477, 12479, 12481, 12484, 12486, 12488, 12490, 12491, 12492, 12493,
   12494, 12495, 12498, 12501, 12504, 12507, 12510, 12511, 12512, 12513, 12514, 12516, 12518, 12520,
   12521, 12522, 12523, 12524, 12525, 12527, 12531, 12441, 12442, 4448, 4352, 4353, 4522, 4354,
   4524, 4525, 4355, 4356, 4357, 4528, 4529, 4530, 4531, 4532, 4533, 4378, 4358, 4359, 4360, 4385,
   4361, 4362, 4363, 4364, 4365, 4366, 4367, 4368, 4369, 4370]), (65474, [4449, 4450, 4451, 4452,
   4453, 4454]), (65482, [4455, 4456, 4457, 4458, 4459, 4460]), (65490, [4461, 4462, 4463, 4464,
   4465, 4466]), (65498, [4467, 4468, 4469])]

/-- Mathematical letters. -/
def alphabets : List (Nat × Nat × Nat) :=
  [(67457, 67458, 720), (67459, 67459, 230), (67460, 67460, 665), (67461, 67461, 595),
   (67463, 67463, 675), (67464, 67464, 43878), (67465, 67465, 677), (67466, 67466, 676),
   (67467, 67468, 598), (67469, 67469, 7569), (67470, 67470, 600), (67471, 67471, 606),
   (67472, 67472, 681), (67473, 67473, 612), (67474, 67474, 610), (67475, 67475, 608),
   (67476, 67476, 667), (67477, 67477, 295), (67478, 67478, 668), (67479, 67479, 615),
   (67480, 67480, 644), (67481, 67482, 682), (67483, 67483, 620), (67484, 67484, 122628),
   (67485, 67485, 42894), (67486, 67486, 622), (67487, 67487, 122629), (67488, 67488, 654),
   (67489, 67489, 122630), (67490, 67490, 248), (67491, 67492, 630), (67493, 67493, 113),
   (67494, 67494, 634), (67495, 67495, 122632), (67496, 67497, 637), (67498, 67498, 640),
   (67499, 67499, 680), (67500, 67500, 678), (67501, 67501, 43879), (67502, 67502, 679),
   (67503, 67503, 648), (67504, 67504, 11377), (67506, 67506, 655), (67507, 67508, 673),
   (67509, 67509, 664), (67510, 67512, 448), (67513, 67513, 122634), (67514, 67514, 122654),
   (118000, 118009, 48), (119808, 119833, 65), (119834, 119859, 97), (119860, 119885, 65),
   (119886, 119892, 97), (119894, 119911, 105), (119912, 119937, 65), (119938, 119963, 97),
   (119964, 119964, 65), (119966, 119967, 67), (119970, 119970, 71), (119973, 119974, 74),
   (119977, 119980, 78), (119982, 119989, 83), (119990, 119993, 97), (119995, 119995, 102),
   (119997, 120003, 104), (120005, 120015, 112), (120016, 120041, 65), (120042, 120067, 97),
   (120068, 120069, 65), (120071, 120074, 68), (120077, 120084, 74), (120086, 120092, 83),
   (120094, 120119, 97), (120120, 120121, 65), (120123, 120126, 68), (120128, 120132, 73),
   (120134, 120134, 79), (120138, 120144, 83), (120146, 120171, 97), (120172, 120197, 65),
   (120198, 120223, 97), (120224, 120249, 65), (120250, 120275, 97), (120276, 120301, 65),
   (120302, 120327, 97), (120328, 120353, 65), (120354, 120379, 97), (120380, 120405, 65),
   (120406, 120431, 97), (120432, 120457, 65), (120458, 120483, 97), (120484, 120484, 305),
   (120485, 120485, 567), (120488, 120504, 913), (120505, 120505, 920), (120506, 120512, 931),
   (120514, 120538, 945), (120540, 120540, 949), (120541, 120541, 952), (120542, 120542, 954),
   (120543, 120543, 966), (120544, 120544, 961), (120545, 120545, 960), (120546, 120562, 913),
   (120563, 120563, 920), (120564, 120570, 931), (120572, 120596, 945), (120598, 120598, 949),
   (120599, 120599, 952), (120600, 120600, 954), (120601, 120601, 966), (120602, 120602, 961),
   (120603, 120603, 960), (120604, 120620, 913), (120621, 120621, 920), (120622, 120628, 931),
   (120630, 120654, 945), (120656, 120656, 949), (120657, 120657, 952), (120658, 120658, 954),
   (120659, 120659, 966), (120660, 120660, 961), (120661, 120661, 960), (120662, 120678, 913),
   (120679, 120679, 920), (120680, 120686, 931), (120688, 120712, 945), (120714, 120714, 949),
   (120715, 120715, 952), (120716, 120716, 954), (120717, 120717, 966), (120718, 120718, 961),
   (120719, 120719, 960), (120720, 120736, 913), (120737, 120737, 920), (120738, 120744, 931),
   (120746, 120770, 945), (120772, 120772, 949), (120773, 120773, 952), (120774, 120774, 954),
   (120775, 120775, 966), (120776, 120776, 961), (120777, 120777, 960), (120778, 120779, 988),
   (120782, 120791, 48), (120792, 120801, 48), (120802, 120811, 48), (120812, 120821, 48),
   (120822, 120831, 48), (122928, 122936, 1072), (122937, 122939, 1082), (122940, 122950, 1086),
   (122951, 122951, 1099), (122952, 122953, 1101), (122954, 122954, 42633), (122955, 122955, 1241),
   (122956, 122956, 1110), (122957, 122957, 1112), (122958, 122958, 1257), (122959, 122959, 1199),
   (122960, 122960, 1231), (122961, 122969, 1072), (122970, 122971, 1082), (122972, 122973, 1086),
   (122974, 122974, 1089), (122975, 122980, 1091), (122981, 122982, 1098), (122983, 122983, 1169),
   (122984, 122984, 1110), (122985, 122985, 1109), (122986, 122986, 1119), (122987, 122987, 1195),
   (122988, 122988, 42577), (122989, 122989, 1201), (126464, 126465, 1575), (126466, 126466, 1580),
   (126467, 126467, 1583), (126469, 126469, 1608), (126470, 126470, 1586), (126471, 126471, 1581),
   (126472, 126472, 1591), (126473, 126473, 1610), (126474, 126477, 1603), (126478, 126478, 1587),
   (126479, 126479, 1593), (126480, 126480, 1601), (126481, 126481, 1589), (126482, 126482, 1602),
   (126483, 126483, 1585), (126484, 126484, 1588), (126485, 126486, 1578), (126487, 126487, 1582),
   (126488, 126488, 1584), (126489, 126489, 1590), (126490, 126490, 1592), (126491, 126491, 1594),
   (126492, 126492, 1646), (126493, 126493, 1722), (126494, 126494, 1697), (126495, 126495, 1647),
   (126497, 126497, 1576), (126498, 126498, 1580), (126500, 126500, 1607), (126503, 126503, 1581),
   (126505, 126505, 1610), (126506, 126509, 1603), (126510, 126510, 1587), (126511, 126511, 1593),
   (126512, 126512, 1601), (126513, 126513, 1589), (126514, 126514, 1602), (126516, 126516, 1588),
   (126517, 126518, 1578), (126519, 126519, 1582), (126521, 126521, 1590), (126523, 126523, 1594),
   (126530, 126530, 1580), (126535, 126535, 1581), (126537, 126537, 1610), (126539, 126539, 1604),
   (126541, 126541, 1606), (126542, 126542, 1587), (126543, 126543, 1593), (126545, 126545, 1589),
   (126546, 126546, 1602), (126548, 126548, 1588), (126551, 126551, 1582), (126553, 126553, 1590),
   (126555, 126555, 1594), (126557, 126557, 1722), (126559, 126559, 1647), (126561, 126561, 1576),
   (126562, 126562, 1580), (126564, 126564, 1607), (126567, 126567, 1581), (126568, 126568, 1591),
   (126569, 126569, 1610), (126570, 126570, 1603), (126572, 126573, 1605), (126574, 126574, 1587),
   (126575, 126575, 1593), (126576, 126576, 1601), (126577, 126577, 1589), (126578, 126578, 1602),
   (126580, 126580, 1588), (126581, 126582, 1578), (126583, 126583, 1582), (126585, 126585, 1590),
   (126586, 126586, 1592), (126587, 126587, 1594), (126588, 126588, 1646), (126590, 126590, 1697),
   (126592, 126593, 1575), (126594, 126594, 1580), (126595, 126595, 1583), (126596, 126597, 1607),
   (126598, 126598, 1586), (126599, 126599, 1581), (126600, 126600, 1591), (126601, 126601, 1610),
   (126603, 126605, 1604), (126606, 126606, 1587), (126607, 126607, 1593), (126608, 126608, 1601),
   (126609, 126609, 1589), (126610, 126610, 1602), (126611, 126611, 1585), (126612, 126612, 1588),
   (126613, 126614, 1578), (126615, 126615, 1582), (126616, 126616, 1584), (126617, 126617, 1590),
   (126618, 126618, 1592), (126619, 126619, 1594), (126625, 126625, 1576), (126626, 126626, 1580),
   (126627, 126627, 1583), (126629, 126629, 1608), (126630, 126630, 1586), (126631, 126631, 1581),
   (126632, 126632, 1591), (126633, 126633, 1610), (126635, 126637, 1604), (126638, 126638, 1587),
   (126639, 126639, 1593), (126640, 126640, 1601), (126641, 126641, 1589), (126642, 126642, 1602),
   (126643, 126643, 1585), (126644, 126644, 1588), (126645, 126646, 1578), (126647, 126647, 1582),
   (126648, 126648, 1584), (126649, 126649, 1590), (126650, 126650, 1592), (126651, 126651, 1594),
   (130032, 130041, 48)]

/-- More ideographs from older sets. -/
def laterIdeographs : List (Nat × List Nat) :=
  [(194560, [20029, 20024, 20033, 131362, 20320, 20398, 20411, 20482, 20602, 20633, 20711, 20687,
   13470, 132666, 20813, 20820, 20836, 20855, 132380, 13497, 20839, 20877, 132427, 20887, 20900,
   20172, 20908, 20917, 168415, 20981, 20995, 13535, 21051, 21062, 21106, 21111, 13589, 21191,
   21193, 21220, 21242, 21253, 21254, 21271, 21321, 21329, 21338, 21363, 21373, 21375, 21375, 21375,
   133676, 28784, 21450, 21471, 133987, 21483, 21489, 21510, 21662, 21560, 21576, 21608, 21666,
   21750, 21776, 21843, 21859, 21892, 21892, 21913, 21931, 21939, 21954, 22294, 22022, 22295, 22097,
   22132, 20999, 22766, 22478, 22516, 22541, 22411, 22578, 22577, 22700, 136420, 22770, 22775,
   22790, 22810, 22818, 22882, 136872, 136938, 23020, 23067, 23079, 23000, 23142, 14062, 14076,
   23304, 23358, 23358, 137672, 23491, 23512, 23527, 23539, 138008, 23551, 23558, 24403, 23586,
   14209, 23648, 23662, 23744, 23693, 138724, 23875, 138726, 23918, 23915, 23932, 24033, 24034,
   14383, 24061, 24104, 24125, 24169, 14434, 139651, 14460, 24240, 24243, 24246, 24266, 172946,
   24318, 140081, 140081, 33281, 24354, 24354, 14535, 144056, 156122, 24418, 24427, 14563, 24474,
   24525, 24535, 24569, 24705, 14650, 14620, 24724, 141012, 24775, 24904, 24908, 24910, 24908,
   24954, 24974, 25010, 24996, 25007, 25054, 25074, 25078, 25104, 25115, 25181, 25265, 25300, 25424,
   142092, 25405, 25340, 25448, 25475, 25572, 142321, 25634, 25541, 25513, 14894, 25705, 25726,
   25757, 25719, 14956, 25935, 25964, 143370, 26083, 26360, 26185, 15129, 26257, 15112, 15076,
   20882, 20885, 26368, 26268, 32941, 17369, 26391, 26395, 26401, 26462, 26451, 144323, 15177,
   26618, 26501, 26706, 26757, 144493, 26766, 26655, 26900, 15261, 26946, 27043, 27114, 27304,
   145059, 27355, 15384, 27425, 145575, 27476, 15438, 27506, 27551, 27578, 27579, 146061, 138507,
   146170, 27726, 146620, 27839, 27853, 27751, 27926, 27966, 28023, 27969, 28009, 28024, 28037,
   146718, 27956, 28207, 28270, 15667, 28363, 28359, 147153, 28153, 28526, 147294, 147342, 28614,
   28729, 28702, 28699, 15766, 28746, 28797, 28791, 28845, 132389, 28997, 148067, 29084, 148395,
   29224, 29237, 29264, 149000, 29312, 29333, 149301, 149524, 29562, 29579, 16044, 29605, 16056,
   16056, 29767, 29788, 29809, 29829, 29898, 16155, 29988, 150582, 30014, 150674, 30064, 139679,
   30224, 151457, 151480, 151620, 16380, 16392, 30452, 151795, 151794, 151833, 151859, 30494, 30495,
   30495, 30538, 16441, 30603, 16454, 16534, 152605, 30798, 30860, 30924, 16611, 153126, 31062,
   153242, 153285, 31119, 31211, 16687, 31296, 31306, 31311, 153980, 154279, 154279, 31470, 16898,
   154539, 31686, 31689, 16935, 154752, 31954, 17056, 31976, 31971, 32000, 155526, 32099, 17153,
   32199, 32258, 32325, 17204, 156200, 156231, 17241, 156377, 32634, 156478, 32661, 32762, 32773,
   156890, 156963, 32864, 157096, 32880, 144223, 17365, 32946, 33027, 17419, 33086, 23221, 157607,
   157621, 144275, 144284, 33281, 33284, 36766, 17515, 33425, 33419, 33437, 21171, 33457, 33459,
   33469, 33510, 158524, 33509, 33565, 33635, 33709, 33571, 33725, 33767, 33879, 33619, 33738,
   33740, 33756, 158774, 159083, 158933, 17707, 34033, 34035, 34070, 160714, 34148, 159532, 17757,
   17761, 159665, 159954, 17771, 34384, 34396, 34407, 34409, 34473, 34440, 34574, 34530, 34681,
   34600, 34667, 34694, 17879, 34785, 34817, 17913, 34912, 34915, 161383, 35031, 35038, 17973,
   35066, 13499, 161966, 162150, 18110, 18119, 35488, 35565, 35722, 35925, 162984, 36011, 36033,
   36123, 36215, 163631, 133124, 36299, 36284, 36336, 133342, 36564, 36664, 165330, 165357, 37012,
   37105, 37137, 165678, 37147, 37432, 37591, 37592, 37500, 37881, 37909, 166906, 38283, 18837,
   38327, 167287, 18918, 38595, 23986, 38691, 168261, 168474, 19054, 19062, 38880, 168970, 19122,
   169110, 38923, 38923, 38953, 169398, 39138, 19251, 39209, 39335, 39362, 39422, 19406, 170800,
   39698, 40000, 40189, 19662, 19693, 40295, 172238, 19704, 172293, 172558, 172689, 40635, 19798,
   40697, 40702, 40709, 40719, 40726, 40763, 173568])]

/-- All characters that stand for one other. -/
def singles : List (Nat × Nat × Nat) :=
  letters ++ alphabets ++
    (ofRows (ideographs ++ forms ++ laterIdeographs)).map fun (n, target) => (n, n, target)

/-! ## 2. Characters that stand for several

They are taken apart to the end. -/

/-- Letters with marks. -/
def accented : List (Nat × List (List Nat)) :=
  [(192, [[65, 768], [65, 769], [65, 770], [65, 771], [65, 776], [65, 778]]), (199, [[67, 807], [69,
   768], [69, 769], [69, 770], [69, 776], [73, 768], [73, 769], [73, 770], [73, 776]]), (209, [[78,
   771], [79, 768], [79, 769], [79, 770], [79, 771], [79, 776]]), (217, [[85, 768], [85, 769], [85,
   770], [85, 776], [89, 769]]), (224, [[97, 768], [97, 769], [97, 770], [97, 771], [97, 776], [97,
   778]]), (231, [[99, 807], [101, 768], [101, 769], [101, 770], [101, 776], [105, 768], [105, 769],
   [105, 770], [105, 776]]), (241, [[110, 771], [111, 768], [111, 769], [111, 770], [111, 771],
   [111, 776]]), (249, [[117, 768], [117, 769], [117, 770], [117, 776], [121, 769]]), (255, [[121,
   776], [65, 772], [97, 772], [65, 774], [97, 774], [65, 808], [97, 808], [67, 769], [99, 769],
   [67, 770], [99, 770], [67, 775], [99, 775], [67, 780], [99, 780], [68, 780], [100, 780]]), (274,
   [[69, 772], [101, 772], [69, 774], [101, 774], [69, 775], [101, 775], [69, 808], [101, 808], [69,
   780], [101, 780], [71, 770], [103, 770], [71, 774], [103, 774], [71, 775], [103, 775], [71, 807],
   [103, 807], [72, 770], [104, 770]]), (296, [[73, 771], [105, 771], [73, 772], [105, 772], [73,
   774], [105, 774], [73, 808], [105, 808], [73, 775]]), (306, [[73, 74], [105, 106], [74, 770],
   [106, 770], [75, 807], [107, 807]]), (313, [[76, 769], [108, 769], [76, 807], [108, 807], [76,
   780], [108, 780], [76, 183], [108, 183]]), (323, [[78, 769], [110, 769], [78, 807], [110, 807],
   [78, 780], [110, 780], [700, 110]]), (332, [[79, 772], [111, 772], [79, 774], [111, 774], [79,
   779], [111, 779]]), (340, [[82, 769], [114, 769], [82, 807], [114, 807], [82, 780], [114, 780],
   [83, 769], [115, 769], [83, 770], [115, 770], [83, 807], [115, 807], [83, 780], [115, 780], [84,
   807], [116, 807], [84, 780], [116, 780]]), (360, [[85, 771], [117, 771], [85, 772], [117, 772],
   [85, 774], [117, 774], [85, 778], [117, 778], [85, 779], [117, 779], [85, 808], [117, 808], [87,
   770], [119, 770], [89, 770], [121, 770], [89, 776], [90, 769], [122, 769], [90, 775], [122, 775],
   [90, 780], [122, 780]]), (416, [[79, 795], [111, 795]]), (431, [[85, 795], [117, 795]]), (452,
   [[68, 90, 780], [68, 122, 780], [100, 122, 780], [76, 74], [76, 106], [108, 106], [78, 74], [78,
   106], [110, 106], [65, 780], [97, 780], [73, 780], [105, 780], [79, 780], [111, 780], [85, 780],
   [117, 780], [85, 776, 772], [117, 776, 772], [85, 776, 769], [117, 776, 769], [85, 776, 780],
   [117, 776, 780], [85, 776, 768], [117, 776, 768]]), (478, [[65, 776, 772], [97, 776, 772], [65,
   775, 772], [97, 775, 772], [198, 772], [230, 772]]), (486, [[71, 780], [103, 780], [75, 780],
   [107, 780], [79, 808], [111, 808], [79, 808, 772], [111, 808, 772], [439, 780], [658, 780], [106,
   780], [68, 90], [68, 122], [100, 122], [71, 769], [103, 769]]), (504, [[78, 768], [110, 768],
   [65, 778, 769], [97, 778, 769], [198, 769], [230, 769], [216, 769], [248, 769], [65, 783], [97,
   783], [65, 785], [97, 785], [69, 783], [101, 783], [69, 785], [101, 785], [73, 783], [105, 783],
   [73, 785], [105, 785], [79, 783], [111, 783], [79, 785], [111, 785], [82, 783], [114, 783], [82,
   785], [114, 785], [85, 783], [117, 783], [85, 785], [117, 785], [83, 806], [115, 806], [84, 806],
   [116, 806]]), (542, [[72, 780], [104, 780]]), (550, [[65, 775], [97, 775], [69, 807], [101, 807],
   [79, 776, 772], [111, 776, 772], [79, 771, 772], [111, 771, 772], [79, 775], [111, 775], [79,
   775, 772], [111, 775, 772], [89, 772], [121, 772]]), (836, [[776, 769]]), (902, [[913, 769]]),
   (904, [[917, 769], [919, 769], [921, 769]]), (908, [[927, 769]]), (910, [[933, 769], [937, 769],
   [953, 776, 769]]), (938, [[921, 776], [933, 776], [945, 769], [949, 769], [951, 769], [953, 769],
   [965, 776, 769]]), (970, [[953, 776], [965, 776], [959, 769], [965, 769], [969, 769]]), (979,
   [[933, 769], [933, 776]]), (1024, [[1045, 768], [1045, 776]]), (1027, [[1043, 769]]), (1031,
   [[1030, 776]]), (1036, [[1050, 769], [1048, 768], [1059, 774]]), (1049, [[1048, 774]]), (1081,
   [[1080, 774]]), (1104, [[1077, 768], [1077, 776]]), (1107, [[1075, 769]]), (1111, [[1110, 776]]),
   (1116, [[1082, 769], [1080, 768], [1091, 774]]), (1142, [[1140, 783], [1141, 783]]), (1217,
   [[1046, 774], [1078, 774]]), (1232, [[1040, 774], [1072, 774], [1040, 776], [1072, 776]]), (1238,
   [[1045, 774], [1077, 774]]), (1242, [[1240, 776], [1241, 776], [1046, 776], [1078, 776], [1047,
   776], [1079, 776]]), (1250, [[1048, 772], [1080, 772], [1048, 776], [1080, 776], [1054, 776],
   [1086, 776]]), (1258, [[1256, 776], [1257, 776], [1069, 776], [1101, 776], [1059, 772], [1091,
   772], [1059, 776], [1091, 776], [1059, 779], [1091, 779], [1063, 776], [1095, 776]]), (1272,
   [[1067, 776], [1099, 776]]), (1415, [[1381, 1410]]), (1570, [[1575, 1619], [1575, 1620], [1608,
   1620], [1575, 1621], [1610, 1620]]), (1653, [[1575, 1652], [1608, 1652], [1735, 1652], [1610,
   1652]]), (1728, [[1749, 1620]]), (1730, [[1729, 1620]]), (1747, [[1746, 1620]]), (2345, [[2344,
   2364]]), (2353, [[2352, 2364]]), (2356, [[2355, 2364]]), (2392, [[2325, 2364], [2326, 2364],
   [2327, 2364], [2332, 2364], [2337, 2364], [2338, 2364], [2347, 2364], [2351, 2364]]), (2507,
   [[2503, 2494], [2503, 2519]]), (2524, [[2465, 2492], [2466, 2492]]), (2527, [[2479, 2492]]),
   (2611, [[2610, 2620]]), (2614, [[2616, 2620]]), (2649, [[2582, 2620], [2583, 2620], [2588,
   2620]]), (2654, [[2603, 2620]]), (2888, [[2887, 2902]]), (2891, [[2887, 2878], [2887, 2903]]),
   (2908, [[2849, 2876], [2850, 2876]]), (2964, [[2962, 3031]]), (3018, [[3014, 3006], [3015, 3006],
   [3014, 3031]]), (3144, [[3142, 3158]]), (3264, [[3263, 3285]]), (3271, [[3270, 3285], [3270,
   3286]]), (3274, [[3270, 3266], [3270, 3266, 3285]]), (3402, [[3398, 3390], [3399, 3390], [3398,
   3415]]), (3546, [[3545, 3530]]), (3548, [[3545, 3535], [3545, 3535, 3530], [3545, 3551]]), (3635,
   [[3661, 3634]]), (3763, [[3789, 3762]]), (3804, [[3755, 3737], [3755, 3745]]), (3907, [[3906,
   4023]]), (3917, [[3916, 4023]]), (3922, [[3921, 4023]]), (3927, [[3926, 4023]]), (3932, [[3931,
   4023]]), (3945, [[3904, 4021]]), (3955, [[3953, 3954]]), (3957, [[3953, 3956], [4018, 3968],
   [4018, 3953, 3968], [4019, 3968], [4019, 3953, 3968]]), (3969, [[3953, 3968]]), (3987, [[3986,
   4023]]), (3997, [[3996, 4023]]), (4002, [[4001, 4023]]), (4007, [[4006, 4023]]), (4012, [[4011,
   4023]]), (4025, [[3984, 4021]]), (4134, [[4133, 4142]]), (6918, [[6917, 6965]]), (6920, [[6919,
   6965]]), (6922, [[6921, 6965]]), (6924, [[6923, 6965]]), (6926, [[6925, 6965]]), (6930, [[6929,
   6965]]), (6971, [[6970, 6965]]), (6973, [[6972, 6965]]), (6976, [[6974, 6965], [6975, 6965]]),
   (6979, [[6978, 6965]])]

/-- More letters with marks, and squared words. -/
def moreAccented : List (Nat × List (List Nat)) :=
  [(7680, [[65, 805], [97, 805], [66, 775], [98, 775], [66, 803], [98, 803], [66, 817], [98, 817],
   [67, 807, 769], [99, 807, 769], [68, 775], [100, 775], [68, 803], [100, 803], [68, 817], [100,
   817], [68, 807], [100, 807], [68, 813], [100, 813], [69, 772, 768], [101, 772, 768], [69, 772,
   769], [101, 772, 769], [69, 813], [101, 813], [69, 816], [101, 816], [69, 807, 774], [101, 807,
   774], [70, 775], [102, 775], [71, 772], [103, 772], [72, 775], [104, 775], [72, 803], [104, 803],
   [72, 776], [104, 776], [72, 807], [104, 807], [72, 814], [104, 814], [73, 816], [105, 816], [73,
   776, 769], [105, 776, 769], [75, 769], [107, 769], [75, 803], [107, 803], [75, 817], [107, 817],
   [76, 803], [108, 803], [76, 803, 772], [108, 803, 772], [76, 817], [108, 817], [76, 813], [108,
   813], [77, 769], [109, 769], [77, 775], [109, 775], [77, 803], [109, 803], [78, 775], [110, 775],
   [78, 803], [110, 803], [78, 817], [110, 817], [78, 813], [110, 813], [79, 771, 769], [111, 771,
   769], [79, 771, 776], [111, 771, 776], [79, 772, 768], [111, 772, 768], [79, 772, 769], [111,
   772, 769], [80, 769], [112, 769], [80, 775], [112, 775], [82, 775], [114, 775], [82, 803], [114,
   803], [82, 803, 772], [114, 803, 772], [82, 817], [114, 817], [83, 775], [115, 775], [83, 803],
   [115, 803], [83, 769, 775], [115, 769, 775], [83, 780, 775], [115, 780, 775], [83, 803, 775],
   [115, 803, 775], [84, 775], [116, 775], [84, 803], [116, 803], [84, 817], [116, 817], [84, 813],
   [116, 813], [85, 804], [117, 804], [85, 816], [117, 816], [85, 813], [117, 813], [85, 771, 769],
   [117, 771, 769], [85, 772, 776], [117, 772, 776], [86, 771], [118, 771], [86, 803], [118, 803],
   [87, 768], [119, 768], [87, 769], [119, 769], [87, 776], [119, 776], [87, 775], [119, 775], [87,
   803], [119, 803], [88, 775], [120, 775], [88, 776], [120, 776], [89, 775], [121, 775], [90, 770],
   [122, 770], [90, 803], [122, 803], [90, 817], [122, 817], [104, 817], [116, 776], [119, 778],
   [121, 778], [97, 702], [115, 775]]), (7840, [[65, 803], [97, 803], [65, 777], [97, 777], [65,
   770, 769], [97, 770, 769], [65, 770, 768], [97, 770, 768], [65, 770, 777], [97, 770, 777], [65,
   770, 771], [97, 770, 771], [65, 803, 770], [97, 803, 770], [65, 774, 769], [97, 774, 769], [65,
   774, 768], [97, 774, 768], [65, 774, 777], [97, 774, 777], [65, 774, 771], [97, 774, 771], [65,
   803, 774], [97, 803, 774], [69, 803], [101, 803], [69, 777], [101, 777], [69, 771], [101, 771],
   [69, 770, 769], [101, 770, 769], [69, 770, 768], [101, 770, 768], [69, 770, 777], [101, 770,
   777], [69, 770, 771], [101, 770, 771], [69, 803, 770], [101, 803, 770], [73, 777], [105, 777],
   [73, 803], [105, 803], [79, 803], [111, 803], [79, 777], [111, 777], [79, 770, 769], [111, 770,
   769], [79, 770, 768], [111, 770, 768], [79, 770, 777], [111, 770, 777], [79, 770, 771], [111,
   770, 771], [79, 803, 770], [111, 803, 770], [79, 795, 769], [111, 795, 769], [79, 795, 768],
   [111, 795, 768], [79, 795, 777], [111, 795, 777], [79, 795, 771], [111, 795, 771], [79, 795,
   803], [111, 795, 803], [85, 803], [117, 803], [85, 777], [117, 777], [85, 795, 769], [117, 795,
   769], [85, 795, 768], [117, 795, 768], [85, 795, 777], [117, 795, 777], [85, 795, 771], [117,
   795, 771], [85, 795, 803], [117, 795, 803], [89, 768], [121, 768], [89, 803], [121, 803], [89,
   777], [121, 777], [89, 771], [121, 771]]), (7936, [[945, 787], [945, 788], [945, 787, 768], [945,
   788, 768], [945, 787, 769], [945, 788, 769], [945, 787, 834], [945, 788, 834], [913, 787], [913,
   788], [913, 787, 768], [913, 788, 768], [913, 787, 769], [913, 788, 769], [913, 787, 834], [913,
   788, 834], [949, 787], [949, 788], [949, 787, 768], [949, 788, 768], [949, 787, 769], [949, 788,
   769]]), (7960, [[917, 787], [917, 788], [917, 787, 768], [917, 788, 768], [917, 787, 769], [917,
   788, 769]]), (7968, [[951, 787], [951, 788], [951, 787, 768], [951, 788, 768], [951, 787, 769],
   [951, 788, 769], [951, 787, 834], [951, 788, 834], [919, 787], [919, 788], [919, 787, 768], [919,
   788, 768], [919, 787, 769], [919, 788, 769], [919, 787, 834], [919, 788, 834], [953, 787], [953,
   788], [953, 787, 768], [953, 788, 768], [953, 787, 769], [953, 788, 769], [953, 787, 834], [953,
   788, 834], [921, 787], [921, 788], [921, 787, 768], [921, 788, 768], [921, 787, 769], [921, 788,
   769], [921, 787, 834], [921, 788, 834], [959, 787], [959, 788], [959, 787, 768], [959, 788, 768],
   [959, 787, 769], [959, 788, 769]]), (8008, [[927, 787], [927, 788], [927, 787, 768], [927, 788,
   768], [927, 787, 769], [927, 788, 769]]), (8016, [[965, 787], [965, 788], [965, 787, 768], [965,
   788, 768], [965, 787, 769], [965, 788, 769], [965, 787, 834], [965, 788, 834]]), (8025, [[933,
   788]]), (8027, [[933, 788, 768]]), (8029, [[933, 788, 769]]), (8031, [[933, 788, 834], [969,
   787], [969, 788], [969, 787, 768], [969, 788, 768], [969, 787, 769], [969, 788, 769], [969, 787,
   834], [969, 788, 834], [937, 787], [937, 788], [937, 787, 768], [937, 788, 768], [937, 787, 769],
   [937, 788, 769], [937, 787, 834], [937, 788, 834], [945, 768], [945, 769], [949, 768], [949,
   769], [951, 768], [951, 769], [953, 768], [953, 769], [959, 768], [959, 769], [965, 768], [965,
   769], [969, 768], [969, 769]]), (8064, [[945, 787, 837], [945, 788, 837], [945, 787, 768, 837],
   [945, 788, 768, 837], [945, 787, 769, 837], [945, 788, 769, 837], [945, 787, 834, 837], [945,
   788, 834, 837], [913, 787, 837], [913, 788, 837], [913, 787, 768, 837], [913, 788, 768, 837],
   [913, 787, 769, 837], [913, 788, 769, 837], [913, 787, 834, 837], [913, 788, 834, 837], [951,
   787, 837], [951, 788, 837], [951, 787, 768, 837], [951, 788, 768, 837], [951, 787, 769, 837],
   [951, 788, 769, 837], [951, 787, 834, 837], [951, 788, 834, 837], [919, 787, 837], [919, 788,
   837], [919, 787, 768, 837], [919, 788, 768, 837], [919, 787, 769, 837], [919, 788, 769, 837],
   [919, 787, 834, 837], [919, 788, 834, 837], [969, 787, 837], [969, 788, 837], [969, 787, 768,
   837], [969, 788, 768, 837], [969, 787, 769, 837], [969, 788, 769, 837], [969, 787, 834, 837],
   [969, 788, 834, 837], [937, 787, 837], [937, 788, 837], [937, 787, 768, 837], [937, 788, 768,
   837], [937, 787, 769, 837], [937, 788, 769, 837], [937, 787, 834, 837], [937, 788, 834, 837],
   [945, 774], [945, 772], [945, 768, 837], [945, 837], [945, 769, 837]]), (8118, [[945, 834], [945,
   834, 837], [913, 774], [913, 772], [913, 768], [913, 769], [913, 837]]), (8130, [[951, 768, 837],
   [951, 837], [951, 769, 837]]), (8134, [[951, 834], [951, 834, 837], [917, 768], [917, 769], [919,
   768], [919, 769], [919, 837]]), (8144, [[953, 774], [953, 772], [953, 776, 768], [953, 776,
   769]]), (8150, [[953, 834], [953, 776, 834], [921, 774], [921, 772], [921, 768], [921, 769]]),
   (8160, [[965, 774], [965, 772], [965, 776, 768], [965, 776, 769], [961, 787], [961, 788], [965,
   834], [965, 776, 834], [933, 774], [933, 772], [933, 768], [933, 769], [929, 788]]), (8178,
   [[969, 768, 837], [969, 837], [969, 769, 837]]), (8182, [[969, 834], [969, 834, 837], [927, 768],
   [927, 769], [937, 768], [937, 769], [937, 837]]), (8491, [[65, 778]]), (8545, [[73, 73], [73, 73,
   73], [73, 86]]), (8549, [[86, 73], [86, 73, 73], [86, 73, 73, 73], [73, 88]]), (8554, [[88, 73],
   [88, 73, 73]]), (8561, [[105, 105], [105, 105, 105], [105, 118]]), (8565, [[118, 105], [118, 105,
   105], [118, 105, 105, 105], [105, 120]]), (8570, [[120, 105], [120, 105, 105]]), (12364, [[12363,
   12441]]), (12366, [[12365, 12441]]), (12368, [[12367, 12441]]), (12370, [[12369, 12441]]),
   (12372, [[12371, 12441]]), (12374, [[12373, 12441]]), (12376, [[12375, 12441]]), (12378, [[12377,
   12441]]), (12380, [[12379, 12441]]), (12382, [[12381, 12441]]), (12384, [[12383, 12441]]),
   (12386, [[12385, 12441]]), (12389, [[12388, 12441]]), (12391, [[12390, 12441]]), (12393, [[12392,
   12441]]), (12400, [[12399, 12441], [12399, 12442]]), (12403, [[12402, 12441], [12402, 12442]]),
   (12406, [[12405, 12441], [12405, 12442]]), (12409, [[12408, 12441], [12408, 12442]]), (12412,
   [[12411, 12441], [12411, 12442]]), (12436, [[12358, 12441]]), (12446, [[12445, 12441], [12424,
   12426]]), (12460, [[12459, 12441]]), (12462, [[12461, 12441]]), (12464, [[12463, 12441]]),
   (12466, [[12465, 12441]]), (12468, [[12467, 12441]]), (12470, [[12469, 12441]]), (12472, [[12471,
   12441]]), (12474, [[12473, 12441]]), (12476, [[12475, 12441]]), (12478, [[12477, 12441]]),
   (12480, [[12479, 12441]]), (12482, [[12481, 12441]]), (12485, [[12484, 12441]]), (12487, [[12486,
   12441]]), (12489, [[12488, 12441]]), (12496, [[12495, 12441], [12495, 12442]]), (12499, [[12498,
   12441], [12498, 12442]]), (12502, [[12501, 12441], [12501, 12442]]), (12505, [[12504, 12441],
   [12504, 12442]]), (12508, [[12507, 12441], [12507, 12442]]), (12532, [[12454, 12441]]), (12535,
   [[12527, 12441], [12528, 12441], [12529, 12441], [12530, 12441]]), (12542, [[12541, 12441],
   [12467, 12488]])]

/-- Letters that are written as one. -/
def ligatures : List (Nat × List (List Nat)) :=
  [(64256, [[102, 102], [102, 105], [102, 108], [102, 102, 105], [102, 102, 108], [115, 116], [115,
   116]]), (64275, [[1396, 1398], [1396, 1381], [1396, 1387], [1406, 1398], [1396, 1389]]), (64285,
   [[1497, 1460]]), (64287, [[1522, 1463]]), (64298, [[1513, 1473], [1513, 1474], [1513, 1468,
   1473], [1513, 1468, 1474], [1488, 1463], [1488, 1464], [1488, 1468], [1489, 1468], [1490, 1468],
   [1491, 1468], [1492, 1468], [1493, 1468], [1494, 1468]]), (64312, [[1496, 1468], [1497, 1468],
   [1498, 1468], [1499, 1468], [1500, 1468]]), (64318, [[1502, 1468]]), (64320, [[1504, 1468],
   [1505, 1468]]), (64323, [[1507, 1468], [1508, 1468]]), (64326, [[1510, 1468], [1511, 1468],
   [1512, 1468], [1513, 1468], [1514, 1468], [1493, 1465], [1489, 1471], [1499, 1471], [1508, 1471],
   [1488, 1500]]), (64420, [[1749, 1620], [1749, 1620]]), (64432, [[1746, 1620], [1746, 1620]]),
   (64477, [[1735, 1652]]), (64490, [[1610, 1620, 1575], [1610, 1620, 1575], [1610, 1620, 1749],
   [1610, 1620, 1749], [1610, 1620, 1608], [1610, 1620, 1608], [1610, 1620, 1735], [1610, 1620,
   1735], [1610, 1620, 1734], [1610, 1620, 1734], [1610, 1620, 1736], [1610, 1620, 1736], [1610,
   1620, 1744], [1610, 1620, 1744], [1610, 1620, 1744], [1610, 1620, 1609], [1610, 1620, 1609],
   [1610, 1620, 1609]]), (64512, [[1610, 1620, 1580], [1610, 1620, 1581], [1610, 1620, 1605], [1610,
   1620, 1609], [1610, 1620, 1610], [1576, 1580], [1576, 1581], [1576, 1582], [1576, 1605], [1576,
   1609], [1576, 1610], [1578, 1580], [1578, 1581], [1578, 1582], [1578, 1605], [1578, 1609], [1578,
   1610], [1579, 1580], [1579, 1605], [1579, 1609], [1579, 1610], [1580, 1581], [1580, 1605], [1581,
   1580], [1581, 1605], [1582, 1580], [1582, 1581], [1582, 1605], [1587, 1580], [1587, 1581], [1587,
   1582], [1587, 1605], [1589, 1581], [1589, 1605], [1590, 1580], [1590, 1581], [1590, 1582], [1590,
   1605], [1591, 1581], [1591, 1605], [1592, 1605], [1593, 1580], [1593, 1605], [1594, 1580], [1594,
   1605], [1601, 1580], [1601, 1581], [1601, 1582], [1601, 1605], [1601, 1609], [1601, 1610], [1602,
   1581], [1602, 1605], [1602, 1609], [1602, 1610], [1603, 1575], [1603, 1580], [1603, 1581], [1603,
   1582], [1603, 1604], [1603, 1605], [1603, 1609], [1603, 1610], [1604, 1580], [1604, 1581], [1604,
   1582], [1604, 1605], [1604, 1609], [1604, 1610], [1605, 1580], [1605, 1581], [1605, 1582], [1605,
   1605], [1605, 1609], [1605, 1610], [1606, 1580], [1606, 1581], [1606, 1582], [1606, 1605], [1606,
   1609], [1606, 1610], [1607, 1580], [1607, 1605], [1607, 1609], [1607, 1610], [1610, 1580], [1610,
   1581], [1610, 1582], [1610, 1605], [1610, 1609], [1610, 1610], [1584, 1648], [1585, 1648], [1609,
   1648]]), (64612, [[1610, 1620, 1585], [1610, 1620, 1586], [1610, 1620, 1605], [1610, 1620, 1606],
   [1610, 1620, 1609], [1610, 1620, 1610], [1576, 1585], [1576, 1586], [1576, 1605], [1576, 1606],
   [1576, 1609], [1576, 1610], [1578, 1585], [1578, 1586], [1578, 1605], [1578, 1606], [1578, 1609],
   [1578, 1610], [1579, 1585], [1579, 1586], [1579, 1605], [1579, 1606], [1579, 1609], [1579, 1610],
   [1601, 1609], [1601, 1610], [1602, 1609], [1602, 1610], [1603, 1575], [1603, 1604], [1603, 1605],
   [1603, 1609], [1603, 1610], [1604, 1605], [1604, 1609], [1604, 1610], [1605, 1575], [1605, 1605],
   [1606, 1585], [1606, 1586], [1606, 1605], [1606, 1606], [1606, 1609], [1606, 1610], [1609, 1648],
   [1610, 1585], [1610, 1586], [1610, 1605], [1610, 1606], [1610, 1609], [1610, 1610], [1610, 1620,
   1580], [1610, 1620, 1581], [1610, 1620, 1582], [1610, 1620, 1605], [1610, 1620, 1607], [1576,
   1580], [1576, 1581], [1576, 1582], [1576, 1605], [1576, 1607], [1578, 1580], [1578, 1581], [1578,
   1582], [1578, 1605], [1578, 1607], [1579, 1605], [1580, 1581], [1580, 1605], [1581, 1580], [1581,
   1605], [1582, 1580], [1582, 1605], [1587, 1580], [1587, 1581], [1587, 1582], [1587, 1605], [1589,
   1581], [1589, 1582], [1589, 1605], [1590, 1580], [1590, 1581], [1590, 1582], [1590, 1605], [1591,
   1581], [1592, 1605], [1593, 1580], [1593, 1605], [1594, 1580], [1594, 1605], [1601, 1580], [1601,
   1581], [1601, 1582], [1601, 1605], [1602, 1581], [1602, 1605], [1603, 1580], [1603, 1581], [1603,
   1582], [1603, 1604], [1603, 1605], [1604, 1580], [1604, 1581], [1604, 1582], [1604, 1605], [1604,
   1607], [1605, 1580], [1605, 1581], [1605, 1582], [1605, 1605], [1606, 1580], [1606, 1581], [1606,
   1582], [1606, 1605], [1606, 1607], [1607, 1580], [1607, 1605], [1607, 1648], [1610, 1580], [1610,
   1581], [1610, 1582], [1610, 1605], [1610, 1607], [1610, 1620, 1605], [1610, 1620, 1607], [1576,
   1605], [1576, 1607], [1578, 1605], [1578, 1607], [1579, 1605], [1579, 1607], [1587, 1605], [1587,
   1607], [1588, 1605], [1588, 1607], [1603, 1604], [1603, 1605], [1604, 1605], [1606, 1605], [1606,
   1607], [1610, 1605], [1610, 1607], [1600, 1614, 1617], [1600, 1615, 1617], [1600, 1616, 1617],
   [1591, 1609], [1591, 1610], [1593, 1609], [1593, 1610], [1594, 1609], [1594, 1610], [1587, 1609],
   [1587, 1610], [1588, 1609], [1588, 1610], [1581, 1609], [1581, 1610], [1580, 1609], [1580, 1610],
   [1582, 1609], [1582, 1610], [1589, 1609], [1589, 1610], [1590, 1609], [1590, 1610], [1588, 1580],
   [1588, 1581], [1588, 1582], [1588, 1605], [1588, 1585], [1587, 1585], [1589, 1585], [1590, 1585],
   [1591, 1609], [1591, 1610], [1593, 1609], [1593, 1610], [1594, 1609], [1594, 1610], [1587, 1609],
   [1587, 1610], [1588, 1609], [1588, 1610], [1581, 1609], [1581, 1610], [1580, 1609], [1580, 1610],
   [1582, 1609], [1582, 1610], [1589, 1609], [1589, 1610], [1590, 1609], [1590, 1610], [1588, 1580],
   [1588, 1581], [1588, 1582], [1588, 1605], [1588, 1585], [1587, 1585], [1589, 1585], [1590, 1585],
   [1588, 1580], [1588, 1581], [1588, 1582], [1588, 1605], [1587, 1607], [1588, 1607], [1591, 1605],
   [1587, 1580], [1587, 1581], [1587, 1582], [1588, 1580], [1588, 1581], [1588, 1582], [1591, 1605],
   [1592, 1605], [1575, 1611], [1575, 1611]]), (64848, [[1578, 1580, 1605], [1578, 1581, 1580],
   [1578, 1581, 1580], [1578, 1581, 1605], [1578, 1582, 1605], [1578, 1605, 1580], [1578, 1605,
   1581], [1578, 1605, 1582], [1580, 1605, 1581], [1580, 1605, 1581], [1581, 1605, 1610], [1581,
   1605, 1609], [1587, 1581, 1580], [1587, 1580, 1581], [1587, 1580, 1609], [1587, 1605, 1581],
   [1587, 1605, 1581], [1587, 1605, 1580], [1587, 1605, 1605], [1587, 1605, 1605], [1589, 1581,
   1581], [1589, 1581, 1581], [1589, 1605, 1605], [1588, 1581, 1605], [1588, 1581, 1605], [1588,
   1580, 1610], [1588, 1605, 1582], [1588, 1605, 1582], [1588, 1605, 1605], [1588, 1605, 1605],
   [1590, 1581, 1609], [1590, 1582, 1605], [1590, 1582, 1605], [1591, 1605, 1581], [1591, 1605,
   1581], [1591, 1605, 1605], [1591, 1605, 1610], [1593, 1580, 1605], [1593, 1605, 1605], [1593,
   1605, 1605], [1593, 1605, 1609], [1594, 1605, 1605], [1594, 1605, 1610], [1594, 1605, 1609],
   [1601, 1582, 1605], [1601, 1582, 1605], [1602, 1605, 1581], [1602, 1605, 1605], [1604, 1581,
   1605], [1604, 1581, 1610], [1604, 1581, 1609], [1604, 1580, 1580], [1604, 1580, 1580], [1604,
   1582, 1605], [1604, 1582, 1605], [1604, 1605, 1581], [1604, 1605, 1581], [1605, 1581, 1580],
   [1605, 1581, 1605], [1605, 1581, 1610], [1605, 1580, 1581], [1605, 1580, 1605], [1605, 1582,
   1580], [1605, 1582, 1605]]), (64914, [[1605, 1580, 1582], [1607, 1605, 1580], [1607, 1605, 1605],
   [1606, 1581, 1605], [1606, 1581, 1609], [1606, 1580, 1605], [1606, 1580, 1605], [1606, 1580,
   1609], [1606, 1605, 1610], [1606, 1605, 1609], [1610, 1605, 1605], [1610, 1605, 1605], [1576,
   1582, 1610], [1578, 1580, 1610], [1578, 1580, 1609], [1578, 1582, 1610], [1578, 1582, 1609],
   [1578, 1605, 1610], [1578, 1605, 1609], [1580, 1605, 1610], [1580, 1581, 1609], [1580, 1605,
   1609], [1587, 1582, 1609], [1589, 1581, 1610], [1588, 1581, 1610], [1590, 1581, 1610], [1604,
   1580, 1610], [1604, 1605, 1610], [1610, 1581, 1610], [1610, 1580, 1610], [1610, 1605, 1610],
   [1605, 1605, 1610], [1602, 1605, 1610], [1606, 1581, 1610], [1602, 1605, 1581], [1604, 1581,
   1605], [1593, 1605, 1610], [1603, 1605, 1610], [1606, 1580, 1581], [1605, 1582, 1610], [1604,
   1580, 1605], [1603, 1605, 1605], [1604, 1580, 1605], [1606, 1580, 1581], [1580, 1581, 1610],
   [1581, 1580, 1610], [1605, 1580, 1610], [1601, 1605, 1610], [1576, 1581, 1610], [1603, 1605,
   1605], [1593, 1580, 1605], [1589, 1605, 1605], [1587, 1582, 1610], [1606, 1580, 1610]]), (65008,
   [[1589, 1604, 1746], [1602, 1604, 1746], [1575, 1604, 1604, 1607], [1575, 1603, 1576, 1585],
   [1605, 1581, 1605, 1583], [1589, 1604, 1593, 1605], [1585, 1587, 1608, 1604], [1593, 1604, 1610,
   1607], [1608, 1587, 1604, 1605], [1589, 1604, 1609]]), (65137, [[1600, 1611]]), (65143, [[1600,
   1614]]), (65145, [[1600, 1615]]), (65147, [[1600, 1616]]), (65149, [[1600, 1617]]), (65151,
   [[1600, 1618]]), (65153, [[1575, 1619], [1575, 1619], [1575, 1620], [1575, 1620], [1608, 1620],
   [1608, 1620], [1575, 1621], [1575, 1621], [1610, 1620], [1610, 1620], [1610, 1620], [1610,
   1620]]), (65269, [[1604, 1575, 1619], [1604, 1575, 1619], [1604, 1575, 1620], [1604, 1575, 1620],
   [1604, 1575, 1621], [1604, 1575, 1621], [1604, 1575], [1604, 1575]]), (67017, [[67026, 775]]),
   (67044, [[67034, 775]]), (69786, [[69785, 69818]]), (69788, [[69787, 69818]]), (69803, [[69797,
   69818]]), (69934, [[69937, 69927], [69938, 69927]]), (70475, [[70471, 70462], [70471, 70487]]),
   (70531, [[70530, 70601]]), (70533, [[70532, 70587]]), (70542, [[70539, 70594]]), (70545, [[70544,
   70601]]), (70597, [[70594, 70594]]), (70599, [[70594, 70584], [70594, 70601]]), (70843, [[70841,
   70842], [70841, 70832]]), (70846, [[70841, 70845]]), (71098, [[71096, 71087], [71097, 71087]]),
   (71992, [[71989, 71984]]), (90401, [[90398, 90398], [90398, 90409], [90398, 90399], [90409,
   90399], [90398, 90400], [90398, 90398, 90399], [90398, 90409, 90399], [90398, 90398, 90400]]),
   (93544, [[93543, 93543], [93539, 93543], [93539, 93543, 93543]])]

/-- All characters that stand for several. -/
def expansions : List (Nat × List Nat) := ofRows (accented ++ moreAccented ++ ligatures)

/-! ## 3. Marks and what they make -/

/-- The combining classes of characters that have one other than zero. -/
def classes : List (Nat × Nat × Nat) :=
  [(768, 788, 230), (789, 789, 232), (790, 793, 220), (794, 794, 232), (795, 795, 216),
   (796, 800, 220), (801, 802, 202), (803, 806, 220), (807, 808, 202), (809, 819, 220),
   (820, 824, 1), (825, 828, 220), (829, 836, 230), (837, 837, 240), (838, 838, 230),
   (839, 841, 220), (842, 844, 230), (845, 846, 220), (848, 850, 230), (851, 854, 220),
   (855, 855, 230), (856, 856, 232), (857, 858, 220), (859, 859, 230), (860, 860, 233),
   (861, 862, 234), (863, 863, 233), (864, 865, 234), (866, 866, 233), (867, 879, 230),
   (1155, 1159, 230), (1425, 1425, 220), (1426, 1429, 230), (1430, 1430, 220), (1431, 1433, 230),
   (1434, 1434, 222), (1435, 1435, 220), (1436, 1441, 230), (1442, 1447, 220), (1448, 1449, 230),
   (1450, 1450, 220), (1451, 1452, 230), (1453, 1453, 222), (1454, 1454, 228), (1455, 1455, 230),
   (1456, 1456, 10), (1457, 1457, 11), (1458, 1458, 12), (1459, 1459, 13), (1460, 1460, 14),
   (1461, 1461, 15), (1462, 1462, 16), (1463, 1463, 17), (1464, 1464, 18), (1465, 1466, 19),
   (1467, 1467, 20), (1468, 1468, 21), (1469, 1469, 22), (1471, 1471, 23), (1473, 1473, 24),
   (1474, 1474, 25), (1476, 1476, 230), (1477, 1477, 220), (1479, 1479, 18), (1552, 1559, 230),
   (1560, 1560, 30), (1561, 1561, 31), (1562, 1562, 32), (1611, 1611, 27), (1612, 1612, 28),
   (1613, 1613, 29), (1614, 1614, 30), (1615, 1615, 31), (1616, 1616, 32), (1617, 1617, 33),
   (1618, 1618, 34), (1619, 1620, 230), (1621, 1622, 220), (1623, 1627, 230), (1628, 1628, 220),
   (1629, 1630, 230), (1631, 1631, 220), (1648, 1648, 35), (1750, 1756, 230), (1759, 1762, 230),
   (1763, 1763, 220), (1764, 1764, 230), (1767, 1768, 230), (1770, 1770, 220), (1771, 1772, 230),
   (1773, 1773, 220), (1809, 1809, 36), (1840, 1840, 230), (1841, 1841, 220), (1842, 1843, 230),
   (1844, 1844, 220), (1845, 1846, 230), (1847, 1849, 220), (1850, 1850, 230), (1851, 1852, 220),
   (1853, 1853, 230), (1854, 1854, 220), (1855, 1857, 230), (1858, 1858, 220), (1859, 1859, 230),
   (1860, 1860, 220), (1861, 1861, 230), (1862, 1862, 220), (1863, 1863, 230), (1864, 1864, 220),
   (1865, 1866, 230), (2027, 2033, 230), (2034, 2034, 220), (2035, 2035, 230), (2045, 2045, 220),
   (2070, 2073, 230), (2075, 2083, 230), (2085, 2087, 230), (2089, 2093, 230), (2137, 2139, 220),
   (2199, 2200, 230), (2201, 2203, 220), (2204, 2207, 230), (2250, 2254, 230), (2255, 2259, 220),
   (2260, 2273, 230), (2275, 2275, 220), (2276, 2277, 230), (2278, 2278, 220), (2279, 2280, 230),
   (2281, 2281, 220), (2282, 2284, 230), (2285, 2287, 220), (2288, 2288, 27), (2289, 2289, 28),
   (2290, 2290, 29), (2291, 2293, 230), (2294, 2294, 220), (2295, 2296, 230), (2297, 2298, 220),
   (2299, 2303, 230), (2364, 2364, 7), (2381, 2381, 9), (2385, 2385, 230), (2386, 2386, 220),
   (2387, 2388, 230), (2492, 2492, 7), (2509, 2509, 9), (2558, 2558, 230), (2620, 2620, 7),
   (2637, 2637, 9), (2748, 2748, 7), (2765, 2765, 9), (2876, 2876, 7), (2893, 2893, 9),
   (3021, 3021, 9), (3132, 3132, 7), (3149, 3149, 9), (3157, 3157, 84), (3158, 3158, 91),
   (3260, 3260, 7), (3277, 3277, 9), (3387, 3388, 9), (3405, 3405, 9), (3530, 3530, 9),
   (3640, 3641, 103), (3642, 3642, 9), (3656, 3659, 107), (3768, 3769, 118), (3770, 3770, 9),
   (3784, 3787, 122), (3864, 3865, 220), (3893, 3893, 220), (3895, 3895, 220), (3897, 3897, 216),
   (3953, 3953, 129), (3954, 3954, 130), (3956, 3956, 132), (3962, 3965, 130), (3968, 3968, 130),
   (3970, 3971, 230), (3972, 3972, 9), (3974, 3975, 230), (4038, 4038, 220), (4151, 4151, 7),
   (4153, 4154, 9), (4237, 4237, 220), (4957, 4959, 230), (5908, 5909, 9), (5940, 5940, 9),
   (6098, 6098, 9), (6109, 6109, 230), (6313, 6313, 228), (6457, 6457, 222), (6458, 6458, 230),
   (6459, 6459, 220), (6679, 6679, 230), (6680, 6680, 220), (6752, 6752, 9), (6773, 6780, 230),
   (6783, 6783, 220), (6832, 6836, 230), (6837, 6842, 220), (6843, 6844, 230), (6845, 6845, 220),
   (6847, 6848, 220), (6849, 6850, 230), (6851, 6852, 220), (6853, 6857, 230), (6858, 6858, 220),
   (6859, 6876, 230), (6877, 6877, 220), (6880, 6885, 230), (6886, 6886, 220), (6887, 6890, 230),
   (6891, 6891, 234), (6964, 6964, 7), (6980, 6980, 9), (7019, 7019, 230), (7020, 7020, 220),
   (7021, 7027, 230), (7082, 7083, 9), (7142, 7142, 7), (7154, 7155, 9), (7223, 7223, 7),
   (7376, 7378, 230), (7380, 7380, 1), (7381, 7385, 220), (7386, 7387, 230), (7388, 7391, 220),
   (7392, 7392, 230), (7394, 7400, 1), (7405, 7405, 220), (7412, 7412, 230), (7416, 7417, 230),
   (7616, 7617, 230), (7618, 7618, 220), (7619, 7625, 230), (7626, 7626, 220), (7627, 7628, 230),
   (7629, 7629, 234), (7630, 7630, 214), (7631, 7631, 220), (7632, 7632, 202), (7633, 7669, 230),
   (7670, 7670, 232), (7671, 7672, 228), (7673, 7673, 220), (7674, 7674, 218), (7675, 7675, 230),
   (7676, 7676, 233), (7677, 7677, 220), (7678, 7678, 230), (7679, 7679, 220), (8400, 8401, 230),
   (8402, 8403, 1), (8404, 8407, 230), (8408, 8410, 1), (8411, 8412, 230), (8417, 8417, 230),
   (8421, 8422, 1), (8423, 8423, 230), (8424, 8424, 220), (8425, 8425, 230), (8426, 8427, 1),
   (8428, 8431, 220), (8432, 8432, 230), (11503, 11505, 230), (11647, 11647, 9),
   (11744, 11775, 230), (12330, 12330, 218), (12331, 12331, 228), (12332, 12332, 232),
   (12333, 12333, 222), (12334, 12335, 224), (12441, 12442, 8), (42607, 42607, 230),
   (42612, 42621, 230), (42654, 42655, 230), (42736, 42737, 230), (43014, 43014, 9),
   (43052, 43052, 9), (43204, 43204, 9), (43232, 43249, 230), (43307, 43309, 220),
   (43347, 43347, 9), (43443, 43443, 7), (43456, 43456, 9), (43696, 43696, 230),
   (43698, 43699, 230), (43700, 43700, 220), (43703, 43704, 230), (43710, 43711, 230),
   (43713, 43713, 230), (43766, 43766, 9), (44013, 44013, 9), (64286, 64286, 26),
   (65056, 65062, 230), (65063, 65069, 220), (65070, 65071, 230), (66045, 66045, 220),
   (66272, 66272, 220), (66422, 66426, 230), (68109, 68109, 220), (68111, 68111, 230),
   (68152, 68152, 230), (68153, 68153, 1), (68154, 68154, 220), (68159, 68159, 9),
   (68325, 68325, 230), (68326, 68326, 220), (68900, 68903, 230), (68969, 68973, 230),
   (69291, 69292, 230), (69370, 69371, 220), (69373, 69375, 220), (69446, 69447, 220),
   (69448, 69450, 230), (69451, 69451, 220), (69452, 69452, 230), (69453, 69456, 220),
   (69506, 69506, 230), (69507, 69507, 220), (69508, 69508, 230), (69509, 69509, 220),
   (69702, 69702, 9), (69744, 69744, 9), (69759, 69759, 9), (69817, 69817, 9), (69818, 69818, 7),
   (69888, 69890, 230), (69939, 69940, 9), (70003, 70003, 7), (70080, 70080, 9), (70090, 70090, 7),
   (70197, 70197, 9), (70198, 70198, 7), (70377, 70377, 7), (70378, 70378, 9), (70459, 70460, 7),
   (70477, 70477, 9), (70502, 70508, 230), (70512, 70516, 230), (70606, 70608, 9),
   (70722, 70722, 9), (70726, 70726, 7), (70750, 70750, 230), (70850, 70850, 9), (70851, 70851, 7),
   (71103, 71103, 9), (71104, 71104, 7), (71231, 71231, 9), (71350, 71350, 9), (71351, 71351, 7),
   (71467, 71467, 9), (71737, 71737, 9), (71738, 71738, 7), (71997, 71998, 9), (72003, 72003, 7),
   (72160, 72160, 9), (72244, 72244, 9), (72263, 72263, 9), (72345, 72345, 9), (72767, 72767, 9),
   (73026, 73026, 7), (73028, 73029, 9), (73111, 73111, 9), (73537, 73538, 9), (90415, 90415, 9),
   (92912, 92916, 1), (92976, 92982, 230), (94192, 94193, 6), (113822, 113822, 1),
   (119141, 119142, 216), (119143, 119145, 1), (119149, 119149, 226), (119150, 119154, 216),
   (119163, 119170, 220), (119173, 119177, 230), (119178, 119179, 220), (119210, 119213, 230),
   (119362, 119364, 230), (122880, 122886, 230), (122888, 122904, 230), (122907, 122913, 230),
   (122915, 122916, 230), (122918, 122922, 230), (123023, 123023, 230), (123184, 123190, 230),
   (123566, 123566, 230), (123628, 123631, 230), (124140, 124141, 232), (124142, 124142, 220),
   (124143, 124143, 230), (124398, 124398, 230), (124399, 124399, 220), (124643, 124643, 230),
   (124646, 124646, 230), (124654, 124655, 230), (124661, 124661, 230), (125136, 125142, 220),
   (125252, 125257, 230), (125258, 125258, 7)]

/-- Two characters, and the one that they make together. -/
def pairs : List (Nat × Nat × Nat) :=
  [(65, 768, 192), (65, 769, 193), (65, 770, 194), (65, 771, 195), (65, 776, 196), (65, 778, 197),
   (67, 807, 199), (69, 768, 200), (69, 769, 201), (69, 770, 202), (69, 776, 203), (73, 768, 204),
   (73, 769, 205), (73, 770, 206), (73, 776, 207), (78, 771, 209), (79, 768, 210), (79, 769, 211),
   (79, 770, 212), (79, 771, 213), (79, 776, 214), (85, 768, 217), (85, 769, 218), (85, 770, 219),
   (85, 776, 220), (89, 769, 221), (97, 768, 224), (97, 769, 225), (97, 770, 226), (97, 771, 227),
   (97, 776, 228), (97, 778, 229), (99, 807, 231), (101, 768, 232), (101, 769, 233),
   (101, 770, 234), (101, 776, 235), (105, 768, 236), (105, 769, 237), (105, 770, 238),
   (105, 776, 239), (110, 771, 241), (111, 768, 242), (111, 769, 243), (111, 770, 244),
   (111, 771, 245), (111, 776, 246), (117, 768, 249), (117, 769, 250), (117, 770, 251),
   (117, 776, 252), (121, 769, 253), (121, 776, 255), (65, 772, 256), (97, 772, 257),
   (65, 774, 258), (97, 774, 259), (65, 808, 260), (97, 808, 261), (67, 769, 262), (99, 769, 263),
   (67, 770, 264), (99, 770, 265), (67, 775, 266), (99, 775, 267), (67, 780, 268), (99, 780, 269),
   (68, 780, 270), (100, 780, 271), (69, 772, 274), (101, 772, 275), (69, 774, 276),
   (101, 774, 277), (69, 775, 278), (101, 775, 279), (69, 808, 280), (101, 808, 281),
   (69, 780, 282), (101, 780, 283), (71, 770, 284), (103, 770, 285), (71, 774, 286),
   (103, 774, 287), (71, 775, 288), (103, 775, 289), (71, 807, 290), (103, 807, 291),
   (72, 770, 292), (104, 770, 293), (73, 771, 296), (105, 771, 297), (73, 772, 298),
   (105, 772, 299), (73, 774, 300), (105, 774, 301), (73, 808, 302), (105, 808, 303),
   (73, 775, 304), (74, 770, 308), (106, 770, 309), (75, 807, 310), (107, 807, 311), (76, 769, 313),
   (108, 769, 314), (76, 807, 315), (108, 807, 316), (76, 780, 317), (108, 780, 318),
   (78, 769, 323), (110, 769, 324), (78, 807, 325), (110, 807, 326), (78, 780, 327),
   (110, 780, 328), (79, 772, 332), (111, 772, 333), (79, 774, 334), (111, 774, 335),
   (79, 779, 336), (111, 779, 337), (82, 769, 340), (114, 769, 341), (82, 807, 342),
   (114, 807, 343), (82, 780, 344), (114, 780, 345), (83, 769, 346), (115, 769, 347),
   (83, 770, 348), (115, 770, 349), (83, 807, 350), (115, 807, 351), (83, 780, 352),
   (115, 780, 353), (84, 807, 354), (116, 807, 355), (84, 780, 356), (116, 780, 357),
   (85, 771, 360), (117, 771, 361), (85, 772, 362), (117, 772, 363), (85, 774, 364),
   (117, 774, 365), (85, 778, 366), (117, 778, 367), (85, 779, 368), (117, 779, 369),
   (85, 808, 370), (117, 808, 371), (87, 770, 372), (119, 770, 373), (89, 770, 374),
   (121, 770, 375), (89, 776, 376), (90, 769, 377), (122, 769, 378), (90, 775, 379),
   (122, 775, 380), (90, 780, 381), (122, 780, 382), (79, 795, 416), (111, 795, 417),
   (85, 795, 431), (117, 795, 432), (65, 780, 461), (97, 780, 462), (73, 780, 463), (105, 780, 464),
   (79, 780, 465), (111, 780, 466), (85, 780, 467), (117, 780, 468), (220, 772, 469),
   (252, 772, 470), (220, 769, 471), (252, 769, 472), (220, 780, 473), (252, 780, 474),
   (220, 768, 475), (252, 768, 476), (196, 772, 478), (228, 772, 479), (550, 772, 480),
   (551, 772, 481), (198, 772, 482), (230, 772, 483), (71, 780, 486), (103, 780, 487),
   (75, 780, 488), (107, 780, 489), (79, 808, 490), (111, 808, 491), (490, 772, 492),
   (491, 772, 493), (439, 780, 494), (658, 780, 495), (106, 780, 496), (71, 769, 500),
   (103, 769, 501), (78, 768, 504), (110, 768, 505), (197, 769, 506), (229, 769, 507),
   (198, 769, 508), (230, 769, 509), (216, 769, 510), (248, 769, 511), (65, 783, 512),
   (97, 783, 513), (65, 785, 514), (97, 785, 515), (69, 783, 516), (101, 783, 517), (69, 785, 518),
   (101, 785, 519), (73, 783, 520), (105, 783, 521), (73, 785, 522), (105, 785, 523),
   (79, 783, 524), (111, 783, 525), (79, 785, 526), (111, 785, 527), (82, 783, 528),
   (114, 783, 529), (82, 785, 530), (114, 785, 531), (85, 783, 532), (117, 783, 533),
   (85, 785, 534), (117, 785, 535), (83, 806, 536), (115, 806, 537), (84, 806, 538),
   (116, 806, 539), (72, 780, 542), (104, 780, 543), (65, 775, 550), (97, 775, 551), (69, 807, 552),
   (101, 807, 553), (214, 772, 554), (246, 772, 555), (213, 772, 556), (245, 772, 557),
   (79, 775, 558), (111, 775, 559), (558, 772, 560), (559, 772, 561), (89, 772, 562),
   (121, 772, 563), (913, 769, 902), (917, 769, 904), (919, 769, 905), (921, 769, 906),
   (927, 769, 908), (933, 769, 910), (937, 769, 911), (970, 769, 912), (921, 776, 938),
   (933, 776, 939), (945, 769, 940), (949, 769, 941), (951, 769, 942), (953, 769, 943),
   (971, 769, 944), (953, 776, 970), (965, 776, 971), (959, 769, 972), (965, 769, 973),
   (969, 769, 974), (978, 769, 979), (978, 776, 980), (1045, 768, 1024), (1045, 776, 1025),
   (1043, 769, 1027), (1030, 776, 1031), (1050, 769, 1036), (1048, 768, 1037), (1059, 774, 1038),
   (1048, 774, 1049), (1080, 774, 1081), (1077, 768, 1104), (1077, 776, 1105), (1075, 769, 1107),
   (1110, 776, 1111), (1082, 769, 1116), (1080, 768, 1117), (1091, 774, 1118), (1140, 783, 1142),
   (1141, 783, 1143), (1046, 774, 1217), (1078, 774, 1218), (1040, 774, 1232), (1072, 774, 1233),
   (1040, 776, 1234), (1072, 776, 1235), (1045, 774, 1238), (1077, 774, 1239), (1240, 776, 1242),
   (1241, 776, 1243), (1046, 776, 1244), (1078, 776, 1245), (1047, 776, 1246), (1079, 776, 1247),
   (1048, 772, 1250), (1080, 772, 1251), (1048, 776, 1252), (1080, 776, 1253), (1054, 776, 1254),
   (1086, 776, 1255), (1256, 776, 1258), (1257, 776, 1259), (1069, 776, 1260), (1101, 776, 1261),
   (1059, 772, 1262), (1091, 772, 1263), (1059, 776, 1264), (1091, 776, 1265), (1059, 779, 1266),
   (1091, 779, 1267), (1063, 776, 1268), (1095, 776, 1269), (1067, 776, 1272), (1099, 776, 1273),
   (1575, 1619, 1570), (1575, 1620, 1571), (1608, 1620, 1572), (1575, 1621, 1573),
   (1610, 1620, 1574), (1749, 1620, 1728), (1729, 1620, 1730), (1746, 1620, 1747),
   (2344, 2364, 2345), (2352, 2364, 2353), (2355, 2364, 2356), (2503, 2494, 2507),
   (2503, 2519, 2508), (2887, 2902, 2888), (2887, 2878, 2891), (2887, 2903, 2892),
   (2962, 3031, 2964), (3014, 3006, 3018), (3015, 3006, 3019), (3014, 3031, 3020),
   (3142, 3158, 3144), (3263, 3285, 3264), (3270, 3285, 3271), (3270, 3286, 3272),
   (3270, 3266, 3274), (3274, 3285, 3275), (3398, 3390, 3402), (3399, 3390, 3403),
   (3398, 3415, 3404), (3545, 3530, 3546), (3545, 3535, 3548), (3548, 3530, 3549),
   (3545, 3551, 3550), (4133, 4142, 4134), (6917, 6965, 6918), (6919, 6965, 6920),
   (6921, 6965, 6922), (6923, 6965, 6924), (6925, 6965, 6926), (6929, 6965, 6930),
   (6970, 6965, 6971), (6972, 6965, 6973), (6974, 6965, 6976), (6975, 6965, 6977),
   (6978, 6965, 6979), (65, 805, 7680), (97, 805, 7681), (66, 775, 7682), (98, 775, 7683),
   (66, 803, 7684), (98, 803, 7685), (66, 817, 7686), (98, 817, 7687), (199, 769, 7688),
   (231, 769, 7689), (68, 775, 7690), (100, 775, 7691), (68, 803, 7692), (100, 803, 7693),
   (68, 817, 7694), (100, 817, 7695), (68, 807, 7696), (100, 807, 7697), (68, 813, 7698),
   (100, 813, 7699), (274, 768, 7700), (275, 768, 7701), (274, 769, 7702), (275, 769, 7703),
   (69, 813, 7704), (101, 813, 7705), (69, 816, 7706), (101, 816, 7707), (552, 774, 7708),
   (553, 774, 7709), (70, 775, 7710), (102, 775, 7711), (71, 772, 7712), (103, 772, 7713),
   (72, 775, 7714), (104, 775, 7715), (72, 803, 7716), (104, 803, 7717), (72, 776, 7718),
   (104, 776, 7719), (72, 807, 7720), (104, 807, 7721), (72, 814, 7722), (104, 814, 7723),
   (73, 816, 7724), (105, 816, 7725), (207, 769, 7726), (239, 769, 7727), (75, 769, 7728),
   (107, 769, 7729), (75, 803, 7730), (107, 803, 7731), (75, 817, 7732), (107, 817, 7733),
   (76, 803, 7734), (108, 803, 7735), (7734, 772, 7736), (7735, 772, 7737), (76, 817, 7738),
   (108, 817, 7739), (76, 813, 7740), (108, 813, 7741), (77, 769, 7742), (109, 769, 7743),
   (77, 775, 7744), (109, 775, 7745), (77, 803, 7746), (109, 803, 7747), (78, 775, 7748),
   (110, 775, 7749), (78, 803, 7750), (110, 803, 7751), (78, 817, 7752), (110, 817, 7753),
   (78, 813, 7754), (110, 813, 7755), (213, 769, 7756), (245, 769, 7757), (213, 776, 7758),
   (245, 776, 7759), (332, 768, 7760), (333, 768, 7761), (332, 769, 7762), (333, 769, 7763),
   (80, 769, 7764), (112, 769, 7765), (80, 775, 7766), (112, 775, 7767), (82, 775, 7768),
   (114, 775, 7769), (82, 803, 7770), (114, 803, 7771), (7770, 772, 7772), (7771, 772, 7773),
   (82, 817, 7774), (114, 817, 7775), (83, 775, 7776), (115, 775, 7777), (83, 803, 7778),
   (115, 803, 7779), (346, 775, 7780), (347, 775, 7781), (352, 775, 7782), (353, 775, 7783),
   (7778, 775, 7784), (7779, 775, 7785), (84, 775, 7786), (116, 775, 7787), (84, 803, 7788),
   (116, 803, 7789), (84, 817, 7790), (116, 817, 7791), (84, 813, 7792), (116, 813, 7793),
   (85, 804, 7794), (117, 804, 7795), (85, 816, 7796), (117, 816, 7797), (85, 813, 7798),
   (117, 813, 7799), (360, 769, 7800), (361, 769, 7801), (362, 776, 7802), (363, 776, 7803),
   (86, 771, 7804), (118, 771, 7805), (86, 803, 7806), (118, 803, 7807), (87, 768, 7808),
   (119, 768, 7809), (87, 769, 7810), (119, 769, 7811), (87, 776, 7812), (119, 776, 7813),
   (87, 775, 7814), (119, 775, 7815), (87, 803, 7816), (119, 803, 7817), (88, 775, 7818),
   (120, 775, 7819), (88, 776, 7820), (120, 776, 7821), (89, 775, 7822), (121, 775, 7823),
   (90, 770, 7824), (122, 770, 7825), (90, 803, 7826), (122, 803, 7827), (90, 817, 7828),
   (122, 817, 7829), (104, 817, 7830), (116, 776, 7831), (119, 778, 7832), (121, 778, 7833),
   (383, 775, 7835), (65, 803, 7840), (97, 803, 7841), (65, 777, 7842), (97, 777, 7843),
   (194, 769, 7844), (226, 769, 7845), (194, 768, 7846), (226, 768, 7847), (194, 777, 7848),
   (226, 777, 7849), (194, 771, 7850), (226, 771, 7851), (7840, 770, 7852), (7841, 770, 7853),
   (258, 769, 7854), (259, 769, 7855), (258, 768, 7856), (259, 768, 7857), (258, 777, 7858),
   (259, 777, 7859), (258, 771, 7860), (259, 771, 7861), (7840, 774, 7862), (7841, 774, 7863),
   (69, 803, 7864), (101, 803, 7865), (69, 777, 7866), (101, 777, 7867), (69, 771, 7868),
   (101, 771, 7869), (202, 769, 7870), (234, 769, 7871), (202, 768, 7872), (234, 768, 7873),
   (202, 777, 7874), (234, 777, 7875), (202, 771, 7876), (234, 771, 7877), (7864, 770, 7878),
   (7865, 770, 7879), (73, 777, 7880), (105, 777, 7881), (73, 803, 7882), (105, 803, 7883),
   (79, 803, 7884), (111, 803, 7885), (79, 777, 7886), (111, 777, 7887), (212, 769, 7888),
   (244, 769, 7889), (212, 768, 7890), (244, 768, 7891), (212, 777, 7892), (244, 777, 7893),
   (212, 771, 7894), (244, 771, 7895), (7884, 770, 7896), (7885, 770, 7897), (416, 769, 7898),
   (417, 769, 7899), (416, 768, 7900), (417, 768, 7901), (416, 777, 7902), (417, 777, 7903),
   (416, 771, 7904), (417, 771, 7905), (416, 803, 7906), (417, 803, 7907), (85, 803, 7908),
   (117, 803, 7909), (85, 777, 7910), (117, 777, 7911), (431, 769, 7912), (432, 769, 7913),
   (431, 768, 7914), (432, 768, 7915), (431, 777, 7916), (432, 777, 7917), (431, 771, 7918),
   (432, 771, 7919), (431, 803, 7920), (432, 803, 7921), (89, 768, 7922), (121, 768, 7923),
   (89, 803, 7924), (121, 803, 7925), (89, 777, 7926), (121, 777, 7927), (89, 771, 7928),
   (121, 771, 7929), (945, 787, 7936), (945, 788, 7937), (7936, 768, 7938), (7937, 768, 7939),
   (7936, 769, 7940), (7937, 769, 7941), (7936, 834, 7942), (7937, 834, 7943), (913, 787, 7944),
   (913, 788, 7945), (7944, 768, 7946), (7945, 768, 7947), (7944, 769, 7948), (7945, 769, 7949),
   (7944, 834, 7950), (7945, 834, 7951), (949, 787, 7952), (949, 788, 7953), (7952, 768, 7954),
   (7953, 768, 7955), (7952, 769, 7956), (7953, 769, 7957), (917, 787, 7960), (917, 788, 7961),
   (7960, 768, 7962), (7961, 768, 7963), (7960, 769, 7964), (7961, 769, 7965), (951, 787, 7968),
   (951, 788, 7969), (7968, 768, 7970), (7969, 768, 7971), (7968, 769, 7972), (7969, 769, 7973),
   (7968, 834, 7974), (7969, 834, 7975), (919, 787, 7976), (919, 788, 7977), (7976, 768, 7978),
   (7977, 768, 7979), (7976, 769, 7980), (7977, 769, 7981), (7976, 834, 7982), (7977, 834, 7983),
   (953, 787, 7984), (953, 788, 7985), (7984, 768, 7986), (7985, 768, 7987), (7984, 769, 7988),
   (7985, 769, 7989), (7984, 834, 7990), (7985, 834, 7991), (921, 787, 7992), (921, 788, 7993),
   (7992, 768, 7994), (7993, 768, 7995), (7992, 769, 7996), (7993, 769, 7997), (7992, 834, 7998),
   (7993, 834, 7999), (959, 787, 8000), (959, 788, 8001), (8000, 768, 8002), (8001, 768, 8003),
   (8000, 769, 8004), (8001, 769, 8005), (927, 787, 8008), (927, 788, 8009), (8008, 768, 8010),
   (8009, 768, 8011), (8008, 769, 8012), (8009, 769, 8013), (965, 787, 8016), (965, 788, 8017),
   (8016, 768, 8018), (8017, 768, 8019), (8016, 769, 8020), (8017, 769, 8021), (8016, 834, 8022),
   (8017, 834, 8023), (933, 788, 8025), (8025, 768, 8027), (8025, 769, 8029), (8025, 834, 8031),
   (969, 787, 8032), (969, 788, 8033), (8032, 768, 8034), (8033, 768, 8035), (8032, 769, 8036),
   (8033, 769, 8037), (8032, 834, 8038), (8033, 834, 8039), (937, 787, 8040), (937, 788, 8041),
   (8040, 768, 8042), (8041, 768, 8043), (8040, 769, 8044), (8041, 769, 8045), (8040, 834, 8046),
   (8041, 834, 8047), (945, 768, 8048), (949, 768, 8050), (951, 768, 8052), (953, 768, 8054),
   (959, 768, 8056), (965, 768, 8058), (969, 768, 8060), (7936, 837, 8064), (7937, 837, 8065),
   (7938, 837, 8066), (7939, 837, 8067), (7940, 837, 8068), (7941, 837, 8069), (7942, 837, 8070),
   (7943, 837, 8071), (7944, 837, 8072), (7945, 837, 8073), (7946, 837, 8074), (7947, 837, 8075),
   (7948, 837, 8076), (7949, 837, 8077), (7950, 837, 8078), (7951, 837, 8079), (7968, 837, 8080),
   (7969, 837, 8081), (7970, 837, 8082), (7971, 837, 8083), (7972, 837, 8084), (7973, 837, 8085),
   (7974, 837, 8086), (7975, 837, 8087), (7976, 837, 8088), (7977, 837, 8089), (7978, 837, 8090),
   (7979, 837, 8091), (7980, 837, 8092), (7981, 837, 8093), (7982, 837, 8094), (7983, 837, 8095),
   (8032, 837, 8096), (8033, 837, 8097), (8034, 837, 8098), (8035, 837, 8099), (8036, 837, 8100),
   (8037, 837, 8101), (8038, 837, 8102), (8039, 837, 8103), (8040, 837, 8104), (8041, 837, 8105),
   (8042, 837, 8106), (8043, 837, 8107), (8044, 837, 8108), (8045, 837, 8109), (8046, 837, 8110),
   (8047, 837, 8111), (945, 774, 8112), (945, 772, 8113), (8048, 837, 8114), (945, 837, 8115),
   (940, 837, 8116), (945, 834, 8118), (8118, 837, 8119), (913, 774, 8120), (913, 772, 8121),
   (913, 768, 8122), (913, 837, 8124), (8052, 837, 8130), (951, 837, 8131), (942, 837, 8132),
   (951, 834, 8134), (8134, 837, 8135), (917, 768, 8136), (919, 768, 8138), (919, 837, 8140),
   (953, 774, 8144), (953, 772, 8145), (970, 768, 8146), (953, 834, 8150), (970, 834, 8151),
   (921, 774, 8152), (921, 772, 8153), (921, 768, 8154), (965, 774, 8160), (965, 772, 8161),
   (971, 768, 8162), (961, 787, 8164), (961, 788, 8165), (965, 834, 8166), (971, 834, 8167),
   (933, 774, 8168), (933, 772, 8169), (933, 768, 8170), (929, 788, 8172), (8060, 837, 8178),
   (969, 837, 8179), (974, 837, 8180), (969, 834, 8182), (8182, 837, 8183), (927, 768, 8184),
   (937, 768, 8186), (937, 837, 8188), (12363, 12441, 12364), (12365, 12441, 12366),
   (12367, 12441, 12368), (12369, 12441, 12370), (12371, 12441, 12372), (12373, 12441, 12374),
   (12375, 12441, 12376), (12377, 12441, 12378), (12379, 12441, 12380), (12381, 12441, 12382),
   (12383, 12441, 12384), (12385, 12441, 12386), (12388, 12441, 12389), (12390, 12441, 12391),
   (12392, 12441, 12393), (12399, 12441, 12400), (12399, 12442, 12401), (12402, 12441, 12403),
   (12402, 12442, 12404), (12405, 12441, 12406), (12405, 12442, 12407), (12408, 12441, 12409),
   (12408, 12442, 12410), (12411, 12441, 12412), (12411, 12442, 12413), (12358, 12441, 12436),
   (12445, 12441, 12446), (12459, 12441, 12460), (12461, 12441, 12462), (12463, 12441, 12464),
   (12465, 12441, 12466), (12467, 12441, 12468), (12469, 12441, 12470), (12471, 12441, 12472),
   (12473, 12441, 12474), (12475, 12441, 12476), (12477, 12441, 12478), (12479, 12441, 12480),
   (12481, 12441, 12482), (12484, 12441, 12485), (12486, 12441, 12487), (12488, 12441, 12489),
   (12495, 12441, 12496), (12495, 12442, 12497), (12498, 12441, 12499), (12498, 12442, 12500),
   (12501, 12441, 12502), (12501, 12442, 12503), (12504, 12441, 12505), (12504, 12442, 12506),
   (12507, 12441, 12508), (12507, 12442, 12509), (12454, 12441, 12532), (12527, 12441, 12535),
   (12528, 12441, 12536), (12529, 12441, 12537), (12530, 12441, 12538), (12541, 12441, 12542),
   (67026, 775, 67017), (67034, 775, 67044), (69785, 69818, 69786), (69787, 69818, 69788),
   (69797, 69818, 69803), (69937, 69927, 69934), (69938, 69927, 69935), (70471, 70462, 70475),
   (70471, 70487, 70476), (70530, 70601, 70531), (70532, 70587, 70533), (70539, 70594, 70542),
   (70544, 70601, 70545), (70594, 70594, 70597), (70594, 70584, 70599), (70594, 70601, 70600),
   (70841, 70842, 70843), (70841, 70832, 70844), (70841, 70845, 70846), (71096, 71087, 71098),
   (71097, 71087, 71099), (71989, 71984, 71992), (90398, 90398, 90401), (90398, 90409, 90402),
   (90398, 90399, 90403), (90409, 90399, 90404), (90398, 90400, 90405), (90401, 90399, 90406),
   (90402, 90399, 90407), (90401, 90400, 90408), (93543, 93543, 93544), (93539, 93543, 93545),
   (93545, 93543, 93546)]

end TaintFlow.Decomposition
