import ListQuery.Text.CharSet

/-! The sets of characters that decide where one character, as a reader sees it, ends and the next
begins. -/

namespace ListQuery.Text.Cluster

/-- Controls, formats and line separators, the carriage return and the line feed apart. -/
def controls : CharSet := CharSet.mk
  [0, 10, 11, 13, 14, 32, 127, 160, 173, 174, 1564, 1565, 6158, 6159, 8203, 8204, 8206, 8208,
   8232, 8239, 8288, 8304, 65279, 65280, 65520, 65532, 78896, 78912, 113824, 113828, 119155,
   119163, 917504, 917536, 917632, 917760, 918000, 921600]

/-- Marks that extend what stands before them, the zero width joiner apart. -/
def extending : CharSet := CharSet.mk
  [768, 880, 1155, 1162, 1425, 1470, 1471, 1472, 1473, 1475, 1476, 1478, 1479, 1480, 1552, 1563,
   1611, 1632, 1648, 1649, 1750, 1757, 1759, 1765, 1767, 1769, 1770, 1774, 1809, 1810, 1840, 1867,
   1958, 1969, 2027, 2036, 2045, 2046, 2070, 2074, 2075, 2084, 2085, 2088, 2089, 2094, 2137, 2140,
   2199, 2208, 2250, 2274, 2275, 2307, 2362, 2363, 2364, 2365, 2369, 2377, 2381, 2382, 2385, 2392,
   2402, 2404, 2433, 2434, 2492, 2493, 2494, 2495, 2497, 2501, 2509, 2510, 2519, 2520, 2530, 2532,
   2558, 2559, 2561, 2563, 2620, 2621, 2625, 2627, 2631, 2633, 2635, 2638, 2641, 2642, 2672, 2674,
   2677, 2678, 2689, 2691, 2748, 2749, 2753, 2758, 2759, 2761, 2765, 2766, 2786, 2788, 2810, 2816,
   2817, 2818, 2876, 2877, 2878, 2880, 2881, 2885, 2893, 2894, 2901, 2904, 2914, 2916, 2946, 2947,
   3006, 3007, 3008, 3009, 3021, 3022, 3031, 3032, 3072, 3073, 3076, 3077, 3132, 3133, 3134, 3137,
   3142, 3145, 3146, 3150, 3157, 3159, 3170, 3172, 3201, 3202, 3260, 3261, 3263, 3265, 3266, 3267,
   3270, 3273, 3274, 3278, 3285, 3287, 3298, 3300, 3328, 3330, 3387, 3389, 3390, 3391, 3393, 3397,
   3405, 3406, 3415, 3416, 3426, 3428, 3457, 3458, 3530, 3531, 3535, 3536, 3538, 3541, 3542, 3543,
   3551, 3552, 3633, 3634, 3636, 3643, 3655, 3663, 3761, 3762, 3764, 3773, 3784, 3791, 3864, 3866,
   3893, 3894, 3895, 3896, 3897, 3898, 3953, 3967, 3968, 3973, 3974, 3976, 3981, 3992, 3993, 4029,
   4038, 4039, 4141, 4145, 4146, 4152, 4153, 4155, 4157, 4159, 4184, 4186, 4190, 4193, 4209, 4213,
   4226, 4227, 4229, 4231, 4237, 4238, 4253, 4254, 4957, 4960, 5906, 5910, 5938, 5941, 5970, 5972,
   6002, 6004, 6068, 6070, 6071, 6078, 6086, 6087, 6089, 6100, 6109, 6110, 6155, 6158, 6159, 6160,
   6277, 6279, 6313, 6314, 6432, 6435, 6439, 6441, 6450, 6451, 6457, 6460, 6679, 6681, 6683, 6684,
   6742, 6743, 6744, 6751, 6752, 6753, 6754, 6755, 6757, 6765, 6771, 6781, 6783, 6784, 6832, 6878,
   6880, 6892, 6912, 6916, 6964, 6974, 6978, 6981, 7019, 7028, 7040, 7042, 7074, 7078, 7080, 7086,
   7142, 7143, 7144, 7146, 7149, 7150, 7151, 7156, 7212, 7220, 7222, 7224, 7376, 7379, 7380, 7393,
   7394, 7401, 7405, 7406, 7412, 7413, 7416, 7418, 7616, 7680, 8204, 8205, 8400, 8433, 11503,
   11506, 11647, 11648, 11744, 11776, 12330, 12336, 12441, 12443, 42607, 42611, 42612, 42622,
   42654, 42656, 42736, 42738, 43010, 43011, 43014, 43015, 43019, 43020, 43045, 43047, 43052,
   43053, 43204, 43206, 43232, 43250, 43263, 43264, 43302, 43310, 43335, 43346, 43347, 43348,
   43392, 43395, 43443, 43444, 43446, 43450, 43452, 43454, 43456, 43457, 43493, 43494, 43561,
   43567, 43569, 43571, 43573, 43575, 43587, 43588, 43596, 43597, 43644, 43645, 43696, 43697,
   43698, 43701, 43703, 43705, 43710, 43712, 43713, 43714, 43756, 43758, 43766, 43767, 44005,
   44006, 44008, 44009, 44013, 44014, 64286, 64287, 65024, 65040, 65056, 65072, 65438, 65440,
   66045, 66046, 66272, 66273, 66422, 66427, 68097, 68100, 68101, 68103, 68108, 68112, 68152,
   68155, 68159, 68160, 68325, 68327, 68900, 68904, 68969, 68974, 69291, 69293, 69370, 69376,
   69446, 69457, 69506, 69510, 69633, 69634, 69688, 69703, 69744, 69745, 69747, 69749, 69759,
   69762, 69811, 69815, 69817, 69819, 69826, 69827, 69888, 69891, 69927, 69932, 69933, 69941,
   70003, 70004, 70016, 70018, 70070, 70079, 70080, 70081, 70089, 70093, 70095, 70096, 70191,
   70194, 70196, 70200, 70206, 70207, 70209, 70210, 70367, 70368, 70371, 70379, 70400, 70402,
   70459, 70461, 70462, 70463, 70464, 70465, 70477, 70478, 70487, 70488, 70502, 70509, 70512,
   70517, 70584, 70585, 70587, 70593, 70594, 70595, 70597, 70598, 70599, 70602, 70606, 70609,
   70610, 70611, 70625, 70627, 70712, 70720, 70722, 70725, 70726, 70727, 70750, 70751, 70832,
   70833, 70835, 70841, 70842, 70843, 70845, 70846, 70847, 70849, 70850, 70852, 71087, 71088,
   71090, 71094, 71100, 71102, 71103, 71105, 71132, 71134, 71219, 71227, 71229, 71230, 71231,
   71233, 71339, 71340, 71341, 71342, 71344, 71352, 71453, 71454, 71455, 71456, 71458, 71462,
   71463, 71468, 71727, 71736, 71737, 71739, 71984, 71985, 71995, 71999, 72003, 72004, 72148,
   72152, 72154, 72156, 72160, 72161, 72193, 72203, 72243, 72249, 72251, 72255, 72263, 72264,
   72273, 72279, 72281, 72284, 72330, 72343, 72344, 72346, 72544, 72545, 72546, 72549, 72550,
   72551, 72752, 72759, 72760, 72766, 72767, 72768, 72850, 72872, 72874, 72881, 72882, 72884,
   72885, 72887, 73009, 73015, 73018, 73019, 73020, 73022, 73023, 73030, 73031, 73032, 73104,
   73106, 73109, 73110, 73111, 73112, 73459, 73461, 73472, 73474, 73526, 73531, 73536, 73539,
   73562, 73563, 78912, 78913, 78919, 78934, 90398, 90410, 90413, 90416, 92912, 92917, 92976,
   92983, 94031, 94032, 94095, 94099, 94180, 94181, 94192, 94194, 113821, 113823, 118528, 118574,
   118576, 118599, 119141, 119146, 119149, 119155, 119163, 119171, 119173, 119180, 119210, 119214,
   119362, 119365, 121344, 121399, 121403, 121453, 121461, 121462, 121476, 121477, 121499, 121504,
   121505, 121520, 122880, 122887, 122888, 122905, 122907, 122914, 122915, 122917, 122918, 122923,
   123023, 123024, 123184, 123191, 123566, 123567, 123628, 123632, 124140, 124144, 124398, 124400,
   124643, 124644, 124646, 124647, 124654, 124656, 124661, 124662, 125136, 125143, 125252, 125259,
   127995, 128000, 917536, 917632, 917760, 918000]

/-- Marks that stand beside what is before them. -/
def spacing : CharSet := CharSet.mk
  [2307, 2308, 2363, 2364, 2366, 2369, 2377, 2381, 2382, 2384, 2434, 2436, 2495, 2497, 2503, 2505,
   2507, 2509, 2563, 2564, 2622, 2625, 2691, 2692, 2750, 2753, 2761, 2762, 2763, 2765, 2818, 2820,
   2880, 2881, 2887, 2889, 2891, 2893, 3007, 3008, 3009, 3011, 3014, 3017, 3018, 3021, 3073, 3076,
   3137, 3141, 3202, 3204, 3262, 3263, 3265, 3266, 3267, 3269, 3315, 3316, 3330, 3332, 3391, 3393,
   3398, 3401, 3402, 3405, 3458, 3460, 3536, 3538, 3544, 3551, 3570, 3572, 3635, 3636, 3763, 3764,
   3902, 3904, 3967, 3968, 4145, 4146, 4155, 4157, 4182, 4184, 4228, 4229, 6070, 6071, 6078, 6086,
   6087, 6089, 6435, 6439, 6441, 6444, 6448, 6450, 6451, 6457, 6681, 6683, 6741, 6742, 6743, 6744,
   6765, 6771, 6916, 6917, 6974, 6978, 7042, 7043, 7073, 7074, 7078, 7080, 7143, 7144, 7146, 7149,
   7150, 7151, 7204, 7212, 7220, 7222, 7393, 7394, 7415, 7416, 43043, 43045, 43047, 43048, 43136,
   43138, 43188, 43204, 43346, 43347, 43395, 43396, 43444, 43446, 43450, 43452, 43454, 43456,
   43567, 43569, 43571, 43573, 43597, 43598, 43755, 43756, 43758, 43760, 43765, 43766, 44003,
   44005, 44006, 44008, 44009, 44011, 44012, 44013, 69632, 69633, 69634, 69635, 69762, 69763,
   69808, 69811, 69815, 69817, 69932, 69933, 69957, 69959, 70018, 70019, 70067, 70070, 70079,
   70080, 70094, 70095, 70188, 70191, 70194, 70196, 70368, 70371, 70402, 70404, 70463, 70464,
   70465, 70469, 70471, 70473, 70475, 70477, 70498, 70500, 70585, 70587, 70602, 70603, 70604,
   70606, 70709, 70712, 70720, 70722, 70725, 70726, 70833, 70835, 70841, 70842, 70843, 70845,
   70846, 70847, 70849, 70850, 71088, 71090, 71096, 71100, 71102, 71103, 71216, 71219, 71227,
   71229, 71230, 71231, 71340, 71341, 71342, 71344, 71454, 71455, 71462, 71463, 71724, 71727,
   71736, 71737, 71985, 71990, 71991, 71993, 72000, 72001, 72002, 72003, 72145, 72148, 72156,
   72160, 72164, 72165, 72249, 72250, 72279, 72281, 72343, 72344, 72545, 72546, 72549, 72550,
   72551, 72552, 72751, 72752, 72766, 72767, 72873, 72874, 72881, 72882, 72884, 72885, 73098,
   73103, 73107, 73109, 73110, 73111, 73461, 73463, 73475, 73476, 73524, 73526, 73534, 73536,
   90410, 90413, 94033, 94088]

/-- Signs that belong to what stands after them. -/
def prepended : CharSet := CharSet.mk
  [1536, 1542, 1757, 1758, 1807, 1808, 2192, 2194, 2274, 2275, 3406, 3407, 69821, 69822, 69837,
   69838, 70082, 70084, 70609, 70610, 71999, 72000, 72001, 72002, 72324, 72330, 73030, 73031,
   73474, 73475]

/-- Consonants that form conjuncts. -/
def conjunctConsonants : CharSet := CharSet.mk
  [2325, 2362, 2392, 2400, 2424, 2432, 2453, 2473, 2474, 2481, 2482, 2483, 2486, 2490, 2524, 2526,
   2527, 2528, 2544, 2546, 2709, 2729, 2730, 2737, 2738, 2740, 2741, 2746, 2809, 2810, 2837, 2857,
   2858, 2865, 2866, 2868, 2869, 2874, 2908, 2910, 2911, 2912, 2929, 2930, 3093, 3113, 3114, 3130,
   3160, 3163, 3349, 3387, 4096, 4139, 4159, 4160, 4176, 4182, 4186, 4190, 4193, 4194, 4197, 4199,
   4206, 4209, 4213, 4226, 4238, 4239, 6016, 6068, 6688, 6741, 6923, 6925, 6931, 6964, 6981, 6989,
   7043, 7073, 7086, 7088, 7099, 7102, 43401, 43404, 43407, 43443, 43488, 43493, 43495, 43504,
   43514, 43519, 43616, 43632, 43633, 43636, 43642, 43643, 43646, 43648, 43744, 43755, 43968,
   43995, 68096, 68097, 68112, 68116, 68117, 68120, 68121, 68150, 69891, 69927, 69956, 69957,
   69959, 69960, 70528, 70538, 70539, 70540, 70542, 70543, 70544, 70582, 71936, 71943, 71945,
   71946, 71948, 71956, 71957, 71959, 71960, 71984, 72192, 72193, 72203, 72243, 72272, 72273,
   72284, 72324, 73476, 73489, 73490, 73524]

/-- Signs that link two consonants to a conjunct. -/
def conjunctLinkers : CharSet := CharSet.mk
  [2381, 2382, 2509, 2510, 2765, 2766, 2893, 2894, 3149, 3150, 3405, 3406, 4153, 4154, 6098, 6099,
   6752, 6753, 6980, 6981, 7083, 7084, 43456, 43457, 43766, 43767, 68159, 68160, 69939, 69940,
   70608, 70609, 71998, 71999, 72263, 72264, 72345, 72346, 73538, 73539]

/-- Pictographs. -/
def pictographs : CharSet := CharSet.mk
  [169, 170, 174, 175, 8252, 8253, 8265, 8266, 8482, 8483, 8505, 8506, 8596, 8602, 8617, 8619,
   8986, 8988, 9000, 9001, 9167, 9168, 9193, 9204, 9208, 9211, 9410, 9411, 9642, 9644, 9654, 9655,
   9664, 9665, 9723, 9727, 9728, 9733, 9742, 9743, 9745, 9746, 9748, 9750, 9752, 9753, 9757, 9758,
   9760, 9761, 9762, 9764, 9766, 9767, 9770, 9771, 9774, 9776, 9784, 9787, 9792, 9793, 9794, 9795,
   9800, 9812, 9823, 9825, 9827, 9828, 9829, 9831, 9832, 9833, 9851, 9852, 9854, 9856, 9874, 9880,
   9881, 9882, 9883, 9885, 9888, 9890, 9895, 9896, 9898, 9900, 9904, 9906, 9917, 9919, 9924, 9926,
   9928, 9929, 9934, 9936, 9937, 9938, 9939, 9941, 9961, 9963, 9968, 9974, 9975, 9979, 9981, 9982,
   9986, 9987, 9989, 9990, 9992, 9998, 9999, 10000, 10002, 10003, 10004, 10005, 10006, 10007,
   10013, 10014, 10017, 10018, 10024, 10025, 10035, 10037, 10052, 10053, 10055, 10056, 10060,
   10061, 10062, 10063, 10067, 10070, 10071, 10072, 10083, 10085, 10133, 10136, 10145, 10146,
   10160, 10161, 10175, 10176, 10548, 10550, 11013, 11016, 11035, 11037, 11088, 11089, 11093,
   11094, 12336, 12337, 12349, 12350, 12951, 12952, 12953, 12954, 126980, 126981, 127020, 127024,
   127124, 127136, 127151, 127153, 127168, 127169, 127183, 127185, 127222, 127232, 127344, 127346,
   127358, 127360, 127374, 127375, 127377, 127387, 127406, 127462, 127489, 127504, 127514, 127515,
   127535, 127536, 127538, 127547, 127548, 127552, 127561, 127584, 127590, 127778, 127780, 127892,
   127894, 127896, 127897, 127900, 127902, 127985, 127987, 127990, 127991, 127995, 128000, 128254,
   128255, 128318, 128329, 128335, 128336, 128360, 128367, 128369, 128371, 128379, 128391, 128392,
   128394, 128398, 128400, 128401, 128405, 128407, 128420, 128422, 128424, 128425, 128433, 128435,
   128444, 128445, 128450, 128453, 128465, 128468, 128476, 128479, 128481, 128482, 128483, 128484,
   128488, 128489, 128495, 128496, 128499, 128500, 128506, 128592, 128640, 128710, 128715, 128723,
   128725, 128742, 128745, 128746, 128747, 128753, 128755, 128768, 128986, 129024, 129036, 129040,
   129096, 129104, 129114, 129120, 129160, 129168, 129198, 129200, 129212, 129216, 129218, 129232,
   129241, 129280, 129292, 129339, 129340, 129350, 129351, 129536, 129624, 129632, 129646, 129792,
   130048, 131070]

end ListQuery.Text.Cluster
