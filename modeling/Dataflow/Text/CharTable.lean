/-!
# Character property tables

Code point ranges of the Unicode properties that the texts of this library are
read and printed by. Each table lists disjoint ranges `(first, last)` in
increasing order; `Dataflow.Text.CharClass` turns them into predicates.
-/

namespace Dataflow.Text.CharTable

/-- The property White_Space. -/
def whiteSpace : List (Nat × Nat) :=
  [(9, 13), (32, 32), (133, 133), (160, 160), (5760, 5760), (8192, 8202), (8232, 8233),
   (8239, 8239), (8287, 8287), (12288, 12288)]

/-- The property Alphabetic. -/
def alphabetic : List (Nat × Nat) :=
  [(65, 90), (97, 122), (170, 170), (181, 181), (186, 186), (192, 214), (216, 246), (248, 705),
   (710, 721), (736, 740), (748, 748), (750, 750), (837, 837), (867, 884), (886, 887),
   (890, 893), (895, 895), (902, 902), (904, 906), (908, 908), (910, 929), (931, 1013),
   (1015, 1153), (1162, 1327), (1329, 1366), (1369, 1369), (1376, 1416), (1456, 1469),
   (1471, 1471), (1473, 1474), (1476, 1477), (1479, 1479), (1488, 1514), (1519, 1522),
   (1552, 1562), (1568, 1623), (1625, 1631), (1646, 1747), (1749, 1756), (1761, 1768),
   (1773, 1775), (1786, 1788), (1791, 1791), (1808, 1855), (1869, 1969), (1994, 2026),
   (2036, 2037), (2042, 2042), (2048, 2071), (2074, 2092), (2112, 2136), (2144, 2154),
   (2160, 2183), (2185, 2191), (2199, 2199), (2208, 2249), (2260, 2271), (2275, 2281),
   (2288, 2363), (2365, 2380), (2382, 2384), (2389, 2403), (2417, 2435), (2437, 2444),
   (2447, 2448), (2451, 2472), (2474, 2480), (2482, 2482), (2486, 2489), (2493, 2500),
   (2503, 2504), (2507, 2508), (2510, 2510), (2519, 2519), (2524, 2525), (2527, 2531),
   (2544, 2545), (2556, 2556), (2561, 2563), (2565, 2570), (2575, 2576), (2579, 2600),
   (2602, 2608), (2610, 2611), (2613, 2614), (2616, 2617), (2622, 2626), (2631, 2632),
   (2635, 2636), (2641, 2641), (2649, 2652), (2654, 2654), (2672, 2677), (2689, 2691),
   (2693, 2701), (2703, 2705), (2707, 2728), (2730, 2736), (2738, 2739), (2741, 2745),
   (2749, 2757), (2759, 2761), (2763, 2764), (2768, 2768), (2784, 2787), (2809, 2812),
   (2817, 2819), (2821, 2828), (2831, 2832), (2835, 2856), (2858, 2864), (2866, 2867),
   (2869, 2873), (2877, 2884), (2887, 2888), (2891, 2892), (2902, 2903), (2908, 2909),
   (2911, 2915), (2929, 2929), (2946, 2947), (2949, 2954), (2958, 2960), (2962, 2965),
   (2969, 2970), (2972, 2972), (2974, 2975), (2979, 2980), (2984, 2986), (2990, 3001),
   (3006, 3010), (3014, 3016), (3018, 3020), (3024, 3024), (3031, 3031), (3072, 3084),
   (3086, 3088), (3090, 3112), (3114, 3129), (3133, 3140), (3142, 3144), (3146, 3148),
   (3157, 3158), (3160, 3162), (3164, 3165), (3168, 3171), (3200, 3203), (3205, 3212),
   (3214, 3216), (3218, 3240), (3242, 3251), (3253, 3257), (3261, 3268), (3270, 3272),
   (3274, 3276), (3285, 3286), (3292, 3294), (3296, 3299), (3313, 3315), (3328, 3340),
   (3342, 3344), (3346, 3386), (3389, 3396), (3398, 3400), (3402, 3404), (3406, 3406),
   (3412, 3415), (3423, 3427), (3450, 3455), (3457, 3459), (3461, 3478), (3482, 3505),
   (3507, 3515), (3517, 3517), (3520, 3526), (3535, 3540), (3542, 3542), (3544, 3551),
   (3570, 3571), (3585, 3642), (3648, 3654), (3661, 3661), (3713, 3714), (3716, 3716),
   (3718, 3722), (3724, 3747), (3749, 3749), (3751, 3769), (3771, 3773), (3776, 3780),
   (3782, 3782), (3789, 3789), (3804, 3807), (3840, 3840), (3904, 3911), (3913, 3948),
   (3953, 3971), (3976, 3991), (3993, 4028), (4096, 4150), (4152, 4152), (4155, 4159),
   (4176, 4239), (4250, 4253), (4256, 4293), (4295, 4295), (4301, 4301), (4304, 4346),
   (4348, 4680), (4682, 4685), (4688, 4694), (4696, 4696), (4698, 4701), (4704, 4744),
   (4746, 4749), (4752, 4784), (4786, 4789), (4792, 4798), (4800, 4800), (4802, 4805),
   (4808, 4822), (4824, 4880), (4882, 4885), (4888, 4954), (4992, 5007), (5024, 5109),
   (5112, 5117), (5121, 5740), (5743, 5759), (5761, 5786), (5792, 5866), (5870, 5880),
   (5888, 5907), (5919, 5939), (5952, 5971), (5984, 5996), (5998, 6000), (6002, 6003),
   (6016, 6067), (6070, 6088), (6103, 6103), (6108, 6108), (6176, 6264), (6272, 6314),
   (6320, 6389), (6400, 6430), (6432, 6443), (6448, 6456), (6480, 6509), (6512, 6516),
   (6528, 6571), (6576, 6601), (6656, 6683), (6688, 6750), (6753, 6772), (6823, 6823),
   (6847, 6848), (6860, 6862), (6912, 6963), (6965, 6979), (6981, 6988), (7040, 7081),
   (7084, 7087), (7098, 7141), (7143, 7153), (7168, 7222), (7245, 7247), (7258, 7293),
   (7296, 7306), (7312, 7354), (7357, 7359), (7401, 7404), (7406, 7411), (7413, 7414),
   (7418, 7418), (7424, 7615), (7635, 7668), (7680, 7957), (7960, 7965), (7968, 8005),
   (8008, 8013), (8016, 8023), (8025, 8025), (8027, 8027), (8029, 8029), (8031, 8061),
   (8064, 8116), (8118, 8124), (8126, 8126), (8130, 8132), (8134, 8140), (8144, 8147),
   (8150, 8155), (8160, 8172), (8178, 8180), (8182, 8188), (8305, 8305), (8319, 8319),
   (8336, 8348), (8450, 8450), (8455, 8455), (8458, 8467), (8469, 8469), (8473, 8477),
   (8484, 8484), (8486, 8486), (8488, 8488), (8490, 8493), (8495, 8505), (8508, 8511),
   (8517, 8521), (8526, 8526), (8544, 8584), (9398, 9449), (11264, 11492), (11499, 11502),
   (11506, 11507), (11520, 11557), (11559, 11559), (11565, 11565), (11568, 11623),
   (11631, 11631), (11648, 11670), (11680, 11686), (11688, 11694), (11696, 11702),
   (11704, 11710), (11712, 11718), (11720, 11726), (11728, 11734), (11736, 11742),
   (11744, 11775), (11823, 11823), (12293, 12295), (12321, 12329), (12337, 12341),
   (12344, 12348), (12353, 12438), (12445, 12447), (12449, 12538), (12540, 12543),
   (12549, 12591), (12593, 12686), (12704, 12735), (12784, 12799), (13312, 19903),
   (19968, 42124), (42192, 42237), (42240, 42508), (42512, 42527), (42538, 42539),
   (42560, 42606), (42612, 42619), (42623, 42735), (42775, 42783), (42786, 42888),
   (42891, 42972), (42993, 43013), (43015, 43047), (43072, 43123), (43136, 43203),
   (43205, 43205), (43250, 43255), (43259, 43259), (43261, 43263), (43274, 43306),
   (43312, 43346), (43360, 43388), (43392, 43442), (43444, 43455), (43471, 43471),
   (43488, 43503), (43514, 43518), (43520, 43574), (43584, 43597), (43616, 43638),
   (43642, 43710), (43712, 43712), (43714, 43714), (43739, 43741), (43744, 43759),
   (43762, 43765), (43777, 43782), (43785, 43790), (43793, 43798), (43808, 43814),
   (43816, 43822), (43824, 43866), (43868, 43881), (43888, 44010), (44032, 55203),
   (55216, 55238), (55243, 55291), (63744, 64109), (64112, 64217), (64256, 64262),
   (64275, 64279), (64285, 64296), (64298, 64310), (64312, 64316), (64318, 64318),
   (64320, 64321), (64323, 64324), (64326, 64433), (64467, 64829), (64848, 64911),
   (64914, 64967), (65008, 65019), (65136, 65140), (65142, 65276), (65313, 65338),
   (65345, 65370), (65382, 65470), (65474, 65479), (65482, 65487), (65490, 65495),
   (65498, 65500), (65536, 65547), (65549, 65574), (65576, 65594), (65596, 65597),
   (65599, 65613), (65616, 65629), (65664, 65786), (65856, 65908), (66176, 66204),
   (66208, 66256), (66304, 66335), (66349, 66378), (66384, 66426), (66432, 66461),
   (66464, 66499), (66504, 66511), (66513, 66517), (66560, 66717), (66736, 66771),
   (66776, 66811), (66816, 66855), (66864, 66915), (66928, 66938), (66940, 66954),
   (66956, 66962), (66964, 66965), (66967, 66977), (66979, 66993), (66995, 67001),
   (67003, 67004), (67008, 67059), (67072, 67382), (67392, 67413), (67424, 67431),
   (67456, 67461), (67463, 67504), (67506, 67514), (67584, 67589), (67592, 67592),
   (67594, 67637), (67639, 67640), (67644, 67644), (67647, 67669), (67680, 67702),
   (67712, 67742), (67808, 67826), (67828, 67829), (67840, 67861), (67872, 67897),
   (67904, 67929), (67968, 68023), (68030, 68031), (68096, 68099), (68101, 68102),
   (68108, 68115), (68117, 68119), (68121, 68149), (68192, 68220), (68224, 68252),
   (68288, 68295), (68297, 68324), (68352, 68405), (68416, 68437), (68448, 68466),
   (68480, 68497), (68608, 68680), (68736, 68786), (68800, 68850), (68864, 68903),
   (68938, 68965), (68969, 68969), (68975, 68997), (69248, 69289), (69291, 69292),
   (69296, 69297), (69314, 69319), (69370, 69372), (69376, 69404), (69415, 69415),
   (69424, 69445), (69488, 69505), (69552, 69572), (69600, 69622), (69632, 69701),
   (69745, 69749), (69760, 69816), (69826, 69826), (69840, 69864), (69888, 69938),
   (69956, 69959), (69968, 70002), (70006, 70006), (70016, 70079), (70081, 70084),
   (70094, 70095), (70106, 70106), (70108, 70108), (70144, 70161), (70163, 70196),
   (70199, 70199), (70206, 70209), (70272, 70278), (70280, 70280), (70282, 70285),
   (70287, 70301), (70303, 70312), (70320, 70376), (70400, 70403), (70405, 70412),
   (70415, 70416), (70419, 70440), (70442, 70448), (70450, 70451), (70453, 70457),
   (70461, 70468), (70471, 70472), (70475, 70476), (70480, 70480), (70487, 70487),
   (70493, 70499), (70528, 70537), (70539, 70539), (70542, 70542), (70544, 70581),
   (70583, 70592), (70594, 70594), (70597, 70597), (70599, 70602), (70604, 70605),
   (70609, 70609), (70611, 70611), (70656, 70721), (70723, 70725), (70727, 70730),
   (70751, 70753), (70784, 70849), (70852, 70853), (70855, 70855), (71040, 71093),
   (71096, 71102), (71128, 71133), (71168, 71230), (71232, 71232), (71236, 71236),
   (71296, 71349), (71352, 71352), (71424, 71450), (71453, 71466), (71488, 71494),
   (71680, 71736), (71840, 71903), (71935, 71942), (71945, 71945), (71948, 71955),
   (71957, 71958), (71960, 71989), (71991, 71992), (71995, 71996), (71999, 72002),
   (72096, 72103), (72106, 72151), (72154, 72159), (72161, 72161), (72163, 72164),
   (72192, 72242), (72245, 72254), (72272, 72343), (72349, 72349), (72368, 72440),
   (72544, 72551), (72640, 72672), (72704, 72712), (72714, 72758), (72760, 72766),
   (72768, 72768), (72818, 72847), (72850, 72871), (72873, 72886), (72960, 72966),
   (72968, 72969), (72971, 73014), (73018, 73018), (73020, 73021), (73023, 73025),
   (73027, 73027), (73030, 73031), (73056, 73061), (73063, 73064), (73066, 73102),
   (73104, 73105), (73107, 73110), (73112, 73112), (73136, 73179), (73440, 73462),
   (73472, 73488), (73490, 73530), (73534, 73536), (73648, 73648), (73728, 74649),
   (74752, 74862), (74880, 75075), (77712, 77808), (77824, 78895), (78913, 78918),
   (78944, 82938), (82944, 83526), (90368, 90414), (92160, 92728), (92736, 92766),
   (92784, 92862), (92880, 92909), (92928, 92975), (92992, 92995), (93027, 93047),
   (93053, 93071), (93504, 93548), (93760, 93823), (93856, 93880), (93883, 93907),
   (93952, 94026), (94031, 94087), (94095, 94111), (94176, 94177), (94179, 94179),
   (94192, 94198), (94208, 101589), (101631, 101662), (101760, 101874), (110576, 110579),
   (110581, 110587), (110589, 110590), (110592, 110882), (110898, 110898), (110928, 110930),
   (110933, 110933), (110948, 110951), (110960, 111355), (113664, 113770), (113776, 113788),
   (113792, 113800), (113808, 113817), (113822, 113822), (119808, 119892), (119894, 119964),
   (119966, 119967), (119970, 119970), (119973, 119974), (119977, 119980), (119982, 119993),
   (119995, 119995), (119997, 120003), (120005, 120069), (120071, 120074), (120077, 120084),
   (120086, 120092), (120094, 120121), (120123, 120126), (120128, 120132), (120134, 120134),
   (120138, 120144), (120146, 120485), (120488, 120512), (120514, 120538), (120540, 120570),
   (120572, 120596), (120598, 120628), (120630, 120654), (120656, 120686), (120688, 120712),
   (120714, 120744), (120746, 120770), (120772, 120779), (122624, 122654), (122661, 122666),
   (122880, 122886), (122888, 122904), (122907, 122913), (122915, 122916), (122918, 122922),
   (122928, 122989), (123023, 123023), (123136, 123180), (123191, 123197), (123214, 123214),
   (123536, 123565), (123584, 123627), (124112, 124139), (124368, 124397), (124400, 124400),
   (124608, 124638), (124640, 124661), (124670, 124671), (124896, 124902), (124904, 124907),
   (124909, 124910), (124912, 124926), (124928, 125124), (125184, 125251), (125255, 125255),
   (125259, 125259), (126464, 126467), (126469, 126495), (126497, 126498), (126500, 126500),
   (126503, 126503), (126505, 126514), (126516, 126519), (126521, 126521), (126523, 126523),
   (126530, 126530), (126535, 126535), (126537, 126537), (126539, 126539), (126541, 126543),
   (126545, 126546), (126548, 126548), (126551, 126551), (126553, 126553), (126555, 126555),
   (126557, 126557), (126559, 126559), (126561, 126562), (126564, 126564), (126567, 126570),
   (126572, 126578), (126580, 126583), (126585, 126588), (126590, 126590), (126592, 126601),
   (126603, 126619), (126625, 126627), (126629, 126633), (126635, 126651), (127280, 127305),
   (127312, 127337), (127344, 127369), (131072, 173791), (173824, 178205), (178208, 183981),
   (183984, 191456), (191472, 192093), (194560, 195101), (196608, 201546), (201552, 210041)]

/-- The general categories Nd, Nl and No: characters that stand for numbers. -/
def numeric : List (Nat × Nat) :=
  [(48, 57), (178, 179), (185, 185), (188, 190), (1632, 1641), (1776, 1785), (1984, 1993),
   (2406, 2415), (2534, 2543), (2548, 2553), (2662, 2671), (2790, 2799), (2918, 2927),
   (2930, 2935), (3046, 3058), (3174, 3183), (3192, 3198), (3302, 3311), (3416, 3422),
   (3430, 3448), (3558, 3567), (3664, 3673), (3792, 3801), (3872, 3891), (4160, 4169),
   (4240, 4249), (4969, 4988), (5870, 5872), (6112, 6121), (6128, 6137), (6160, 6169),
   (6470, 6479), (6608, 6618), (6784, 6793), (6800, 6809), (6992, 7001), (7088, 7097),
   (7232, 7241), (7248, 7257), (8304, 8304), (8308, 8313), (8320, 8329), (8528, 8578),
   (8581, 8585), (9312, 9371), (9450, 9471), (10102, 10131), (11517, 11517), (12295, 12295),
   (12321, 12329), (12344, 12346), (12690, 12693), (12832, 12841), (12872, 12879),
   (12881, 12895), (12928, 12937), (12977, 12991), (42528, 42537), (42726, 42735),
   (43056, 43061), (43216, 43225), (43264, 43273), (43472, 43481), (43504, 43513),
   (43600, 43609), (44016, 44025), (65296, 65305), (65799, 65843), (65856, 65912),
   (65930, 65931), (66273, 66299), (66336, 66339), (66369, 66369), (66378, 66378),
   (66513, 66517), (66720, 66729), (67672, 67679), (67705, 67711), (67751, 67759),
   (67835, 67839), (67862, 67867), (68028, 68029), (68032, 68047), (68050, 68095),
   (68160, 68168), (68221, 68222), (68253, 68255), (68331, 68335), (68440, 68447),
   (68472, 68479), (68521, 68527), (68858, 68863), (68912, 68921), (68928, 68937),
   (69216, 69246), (69405, 69414), (69457, 69460), (69573, 69579), (69714, 69743),
   (69872, 69881), (69942, 69951), (70096, 70105), (70113, 70132), (70384, 70393),
   (70736, 70745), (70864, 70873), (71248, 71257), (71360, 71369), (71376, 71395),
   (71472, 71483), (71904, 71922), (72016, 72025), (72688, 72697), (72784, 72812),
   (73040, 73049), (73120, 73129), (73184, 73193), (73552, 73561), (73664, 73684),
   (74752, 74862), (90416, 90425), (92768, 92777), (92864, 92873), (93008, 93017),
   (93019, 93025), (93552, 93561), (93824, 93846), (94196, 94198), (118000, 118009),
   (119488, 119507), (119520, 119539), (119648, 119672), (120782, 120831), (123200, 123209),
   (123632, 123641), (124144, 124153), (124401, 124410), (125127, 125135), (125264, 125273),
   (126065, 126123), (126125, 126127), (126129, 126132), (126209, 126253), (126255, 126269),
   (127232, 127244), (130032, 130041)]

/-- Characters without a visible form of their own: control, format, private
and unassigned characters, separators other than the plain space, and marks
that extend the character before them. -/
def unprintable : List (Nat × Nat) :=
  [(0, 31), (127, 160), (173, 173), (768, 879), (888, 889), (896, 899), (907, 907), (909, 909),
   (930, 930), (1155, 1161), (1328, 1328), (1367, 1368), (1419, 1420), (1424, 1469),
   (1471, 1471), (1473, 1474), (1476, 1477), (1479, 1487), (1515, 1518), (1525, 1541),
   (1552, 1562), (1564, 1564), (1611, 1631), (1648, 1648), (1750, 1757), (1759, 1764),
   (1767, 1768), (1770, 1773), (1806, 1807), (1809, 1809), (1840, 1868), (1958, 1968),
   (1970, 1983), (2027, 2035), (2043, 2045), (2070, 2073), (2075, 2083), (2085, 2087),
   (2089, 2095), (2111, 2111), (2137, 2141), (2143, 2143), (2155, 2159), (2192, 2207),
   (2250, 2306), (2362, 2362), (2364, 2364), (2369, 2376), (2381, 2381), (2385, 2391),
   (2402, 2403), (2433, 2433), (2436, 2436), (2445, 2446), (2449, 2450), (2473, 2473),
   (2481, 2481), (2483, 2485), (2490, 2492), (2494, 2494), (2497, 2502), (2505, 2506),
   (2509, 2509), (2511, 2523), (2526, 2526), (2530, 2533), (2558, 2562), (2564, 2564),
   (2571, 2574), (2577, 2578), (2601, 2601), (2609, 2609), (2612, 2612), (2615, 2615),
   (2618, 2621), (2625, 2648), (2653, 2653), (2655, 2661), (2672, 2673), (2677, 2677),
   (2679, 2690), (2692, 2692), (2702, 2702), (2706, 2706), (2729, 2729), (2737, 2737),
   (2740, 2740), (2746, 2748), (2753, 2760), (2762, 2762), (2765, 2767), (2769, 2783),
   (2786, 2789), (2802, 2808), (2810, 2817), (2820, 2820), (2829, 2830), (2833, 2834),
   (2857, 2857), (2865, 2865), (2868, 2868), (2874, 2876), (2878, 2879), (2881, 2886),
   (2889, 2890), (2893, 2907), (2910, 2910), (2914, 2917), (2936, 2946), (2948, 2948),
   (2955, 2957), (2961, 2961), (2966, 2968), (2971, 2971), (2973, 2973), (2976, 2978),
   (2981, 2983), (2987, 2989), (3002, 3006), (3008, 3008), (3011, 3013), (3017, 3017),
   (3021, 3023), (3025, 3045), (3067, 3072), (3076, 3076), (3085, 3085), (3089, 3089),
   (3113, 3113), (3130, 3132), (3134, 3136), (3141, 3159), (3163, 3163), (3166, 3167),
   (3170, 3173), (3184, 3190), (3201, 3201), (3213, 3213), (3217, 3217), (3241, 3241),
   (3252, 3252), (3258, 3260), (3263, 3264), (3266, 3266), (3269, 3291), (3295, 3295),
   (3298, 3301), (3312, 3312), (3316, 3329), (3341, 3341), (3345, 3345), (3387, 3388),
   (3390, 3390), (3393, 3397), (3401, 3401), (3405, 3405), (3408, 3411), (3415, 3415),
   (3426, 3429), (3456, 3457), (3460, 3460), (3479, 3481), (3506, 3506), (3516, 3516),
   (3518, 3519), (3527, 3535), (3538, 3543), (3551, 3557), (3568, 3569), (3573, 3584),
   (3633, 3633), (3636, 3646), (3655, 3662), (3676, 3712), (3715, 3715), (3717, 3717),
   (3723, 3723), (3748, 3748), (3750, 3750), (3761, 3761), (3764, 3772), (3774, 3775),
   (3781, 3781), (3783, 3791), (3802, 3803), (3808, 3839), (3864, 3865), (3893, 3893),
   (3895, 3895), (3897, 3897), (3912, 3912), (3949, 3966), (3968, 3972), (3974, 3975),
   (3981, 4029), (4038, 4038), (4045, 4045), (4059, 4095), (4141, 4144), (4146, 4151),
   (4153, 4154), (4157, 4158), (4184, 4185), (4190, 4192), (4209, 4212), (4226, 4226),
   (4229, 4230), (4237, 4237), (4253, 4253), (4294, 4294), (4296, 4300), (4302, 4303),
   (4681, 4681), (4686, 4687), (4695, 4695), (4697, 4697), (4702, 4703), (4745, 4745),
   (4750, 4751), (4785, 4785), (4790, 4791), (4799, 4799), (4801, 4801), (4806, 4807),
   (4823, 4823), (4881, 4881), (4886, 4887), (4955, 4959), (4989, 4991), (5018, 5023),
   (5110, 5111), (5118, 5119), (5760, 5760), (5789, 5791), (5881, 5887), (5906, 5918),
   (5938, 5940), (5943, 5951), (5970, 5983), (5997, 5997), (6001, 6015), (6068, 6069),
   (6071, 6077), (6086, 6086), (6089, 6099), (6109, 6111), (6122, 6127), (6138, 6143),
   (6155, 6159), (6170, 6175), (6265, 6271), (6277, 6278), (6313, 6313), (6315, 6319),
   (6390, 6399), (6431, 6434), (6439, 6440), (6444, 6447), (6450, 6450), (6457, 6463),
   (6465, 6467), (6510, 6511), (6517, 6527), (6572, 6575), (6602, 6607), (6619, 6621),
   (6679, 6680), (6683, 6685), (6742, 6742), (6744, 6752), (6754, 6754), (6757, 6764),
   (6771, 6783), (6794, 6799), (6810, 6815), (6830, 6915), (6964, 6973), (6978, 6980),
   (6989, 6989), (7019, 7027), (7040, 7041), (7074, 7077), (7080, 7085), (7142, 7142),
   (7144, 7145), (7149, 7149), (7151, 7163), (7212, 7219), (7222, 7226), (7242, 7244),
   (7307, 7311), (7355, 7356), (7368, 7378), (7380, 7392), (7394, 7400), (7405, 7405),
   (7412, 7412), (7416, 7417), (7419, 7423), (7616, 7679), (7958, 7959), (7966, 7967),
   (8006, 8007), (8014, 8015), (8024, 8024), (8026, 8026), (8028, 8028), (8030, 8030),
   (8062, 8063), (8117, 8117), (8133, 8133), (8148, 8149), (8156, 8156), (8176, 8177),
   (8181, 8181), (8191, 8207), (8232, 8239), (8287, 8303), (8306, 8307), (8335, 8335),
   (8349, 8351), (8386, 8447), (8588, 8591), (9258, 9279), (9291, 9311), (11124, 11125),
   (11503, 11505), (11508, 11512), (11558, 11558), (11560, 11564), (11566, 11567),
   (11624, 11630), (11633, 11647), (11671, 11679), (11687, 11687), (11695, 11695),
   (11703, 11703), (11711, 11711), (11719, 11719), (11727, 11727), (11735, 11735),
   (11743, 11775), (11870, 11903), (11930, 11930), (12020, 12031), (12246, 12271),
   (12288, 12288), (12330, 12335), (12352, 12352), (12439, 12442), (12544, 12548),
   (12592, 12592), (12687, 12687), (12774, 12782), (12831, 12831), (42125, 42127),
   (42183, 42191), (42540, 42559), (42607, 42610), (42612, 42621), (42654, 42655),
   (42736, 42737), (42744, 42751), (42973, 42992), (43010, 43010), (43014, 43014),
   (43019, 43019), (43045, 43046), (43052, 43055), (43066, 43071), (43128, 43135),
   (43204, 43213), (43226, 43249), (43263, 43263), (43302, 43309), (43335, 43345),
   (43347, 43358), (43389, 43394), (43443, 43443), (43446, 43449), (43452, 43453),
   (43456, 43456), (43470, 43470), (43482, 43485), (43493, 43493), (43519, 43519),
   (43561, 43566), (43569, 43570), (43573, 43583), (43587, 43587), (43596, 43596),
   (43598, 43599), (43610, 43611), (43644, 43644), (43696, 43696), (43698, 43700),
   (43703, 43704), (43710, 43711), (43713, 43713), (43715, 43738), (43756, 43757),
   (43766, 43776), (43783, 43784), (43791, 43792), (43799, 43807), (43815, 43815),
   (43823, 43823), (43884, 43887), (44005, 44005), (44008, 44008), (44013, 44015),
   (44026, 44031), (55204, 55215), (55239, 55242), (55292, 55295), (57344, 63743),
   (64110, 64111), (64218, 64255), (64263, 64274), (64280, 64284), (64286, 64286),
   (64311, 64311), (64317, 64317), (64319, 64319), (64322, 64322), (64325, 64325),
   (64976, 65007), (65024, 65039), (65050, 65071), (65107, 65107), (65127, 65127),
   (65132, 65135), (65141, 65141), (65277, 65280), (65438, 65439), (65471, 65473),
   (65480, 65481), (65488, 65489), (65496, 65497), (65501, 65503), (65511, 65511),
   (65519, 65531), (65534, 65535), (65548, 65548), (65575, 65575), (65595, 65595),
   (65598, 65598), (65614, 65615), (65630, 65663), (65787, 65791), (65795, 65798),
   (65844, 65846), (65935, 65935), (65949, 65951), (65953, 65999), (66045, 66175),
   (66205, 66207), (66257, 66272), (66300, 66303), (66340, 66348), (66379, 66383),
   (66422, 66431), (66462, 66462), (66500, 66503), (66518, 66559), (66718, 66719),
   (66730, 66735), (66772, 66775), (66812, 66815), (66856, 66863), (66916, 66926),
   (66939, 66939), (66955, 66955), (66963, 66963), (66966, 66966), (66978, 66978),
   (66994, 66994), (67002, 67002), (67005, 67007), (67060, 67071), (67383, 67391),
   (67414, 67423), (67432, 67455), (67462, 67462), (67505, 67505), (67515, 67583),
   (67590, 67591), (67593, 67593), (67638, 67638), (67641, 67643), (67645, 67646),
   (67670, 67670), (67743, 67750), (67760, 67807), (67827, 67827), (67830, 67834),
   (67868, 67870), (67898, 67902), (67930, 67967), (68024, 68027), (68048, 68049),
   (68097, 68111), (68116, 68116), (68120, 68120), (68150, 68159), (68169, 68175),
   (68185, 68191), (68256, 68287), (68325, 68330), (68343, 68351), (68406, 68408),
   (68438, 68439), (68467, 68471), (68498, 68504), (68509, 68520), (68528, 68607),
   (68681, 68735), (68787, 68799), (68851, 68857), (68900, 68911), (68922, 68927),
   (68966, 68973), (68998, 69005), (69008, 69215), (69247, 69247), (69290, 69292),
   (69294, 69295), (69298, 69313), (69320, 69327), (69337, 69375), (69416, 69423),
   (69446, 69456), (69466, 69487), (69506, 69509), (69514, 69551), (69580, 69599),
   (69623, 69631), (69633, 69633), (69688, 69702), (69710, 69713), (69744, 69744),
   (69747, 69748), (69750, 69761), (69811, 69814), (69817, 69818), (69821, 69821),
   (69826, 69839), (69865, 69871), (69882, 69890), (69927, 69931), (69933, 69941),
   (69960, 69967), (70003, 70003), (70007, 70017), (70070, 70078), (70080, 70080),
   (70089, 70092), (70095, 70095), (70112, 70112), (70133, 70143), (70162, 70162),
   (70191, 70193), (70196, 70199), (70206, 70206), (70209, 70271), (70279, 70279),
   (70281, 70281), (70286, 70286), (70302, 70302), (70314, 70319), (70367, 70367),
   (70371, 70383), (70394, 70401), (70404, 70404), (70413, 70414), (70417, 70418),
   (70441, 70441), (70449, 70449), (70452, 70452), (70458, 70460), (70462, 70462),
   (70464, 70464), (70469, 70470), (70473, 70474), (70477, 70479), (70481, 70492),
   (70500, 70527), (70538, 70538), (70540, 70541), (70543, 70543), (70582, 70582),
   (70584, 70584), (70587, 70601), (70603, 70603), (70606, 70608), (70610, 70610),
   (70614, 70614), (70617, 70655), (70712, 70719), (70722, 70724), (70726, 70726),
   (70748, 70748), (70750, 70750), (70754, 70783), (70832, 70832), (70835, 70840),
   (70842, 70842), (70845, 70845), (70847, 70848), (70850, 70851), (70856, 70863),
   (70874, 71039), (71087, 71087), (71090, 71095), (71100, 71101), (71103, 71104),
   (71132, 71167), (71219, 71226), (71229, 71229), (71231, 71232), (71237, 71247),
   (71258, 71263), (71277, 71295), (71339, 71339), (71341, 71341), (71344, 71351),
   (71354, 71359), (71370, 71375), (71396, 71423), (71451, 71453), (71455, 71455),
   (71458, 71461), (71463, 71471), (71495, 71679), (71727, 71735), (71737, 71738),
   (71740, 71839), (71923, 71934), (71943, 71944), (71946, 71947), (71956, 71956),
   (71959, 71959), (71984, 71984), (71990, 71990), (71993, 71998), (72003, 72003),
   (72007, 72015), (72026, 72095), (72104, 72105), (72148, 72155), (72160, 72160),
   (72165, 72191), (72193, 72202), (72243, 72248), (72251, 72254), (72263, 72271),
   (72273, 72278), (72281, 72283), (72330, 72342), (72344, 72345), (72355, 72367),
   (72441, 72447), (72458, 72544), (72546, 72548), (72550, 72550), (72552, 72639),
   (72674, 72687), (72698, 72703), (72713, 72713), (72752, 72765), (72767, 72767),
   (72774, 72783), (72813, 72815), (72848, 72872), (72874, 72880), (72882, 72883),
   (72885, 72959), (72967, 72967), (72970, 72970), (73009, 73029), (73031, 73039),
   (73050, 73055), (73062, 73062), (73065, 73065), (73103, 73106), (73109, 73109),
   (73111, 73111), (73113, 73119), (73130, 73135), (73180, 73183), (73194, 73439),
   (73459, 73460), (73465, 73473), (73489, 73489), (73526, 73533), (73536, 73538),
   (73562, 73647), (73649, 73663), (73714, 73726), (74650, 74751), (74863, 74863),
   (74869, 74879), (75076, 77711), (77811, 77823), (78896, 78912), (78919, 78943),
   (82939, 82943), (83527, 90367), (90398, 90409), (90413, 90415), (90426, 92159),
   (92729, 92735), (92767, 92767), (92778, 92781), (92863, 92863), (92874, 92879),
   (92910, 92916), (92918, 92927), (92976, 92982), (92998, 93007), (93018, 93018),
   (93026, 93026), (93048, 93052), (93072, 93503), (93562, 93759), (93851, 93855),
   (93881, 93882), (93908, 93951), (94027, 94031), (94088, 94098), (94112, 94175),
   (94180, 94193), (94199, 94207), (101590, 101630), (101663, 101759), (101875, 110575),
   (110580, 110580), (110588, 110588), (110591, 110591), (110883, 110897), (110899, 110927),
   (110931, 110932), (110934, 110947), (110952, 110959), (111356, 113663), (113771, 113775),
   (113789, 113791), (113801, 113807), (113818, 113819), (113821, 113822), (113824, 117759),
   (118013, 118015), (118452, 118457), (118481, 118495), (118513, 118607), (118724, 118783),
   (119030, 119039), (119079, 119080), (119141, 119145), (119149, 119170), (119173, 119179),
   (119210, 119213), (119275, 119295), (119362, 119364), (119366, 119487), (119508, 119519),
   (119540, 119551), (119639, 119647), (119673, 119807), (119893, 119893), (119965, 119965),
   (119968, 119969), (119971, 119972), (119975, 119976), (119981, 119981), (119994, 119994),
   (119996, 119996), (120004, 120004), (120070, 120070), (120075, 120076), (120085, 120085),
   (120093, 120093), (120122, 120122), (120127, 120127), (120133, 120133), (120135, 120137),
   (120145, 120145), (120486, 120487), (120780, 120781), (121344, 121398), (121403, 121452),
   (121461, 121461), (121476, 121476), (121484, 122623), (122655, 122660), (122667, 122927),
   (122990, 123135), (123181, 123190), (123198, 123199), (123210, 123213), (123216, 123535),
   (123566, 123583), (123628, 123631), (123642, 123646), (123648, 124111), (124140, 124143),
   (124154, 124367), (124398, 124399), (124411, 124414), (124416, 124607), (124639, 124639),
   (124643, 124643), (124646, 124646), (124654, 124655), (124661, 124669), (124672, 124895),
   (124903, 124903), (124908, 124908), (124911, 124911), (124927, 124927), (125125, 125126),
   (125136, 125183), (125252, 125258), (125260, 125263), (125274, 125277), (125280, 126064),
   (126133, 126208), (126270, 126463), (126468, 126468), (126496, 126496), (126499, 126499),
   (126501, 126502), (126504, 126504), (126515, 126515), (126520, 126520), (126522, 126522),
   (126524, 126529), (126531, 126534), (126536, 126536), (126538, 126538), (126540, 126540),
   (126544, 126544), (126547, 126547), (126549, 126550), (126552, 126552), (126554, 126554),
   (126556, 126556), (126558, 126558), (126560, 126560), (126563, 126563), (126565, 126566),
   (126571, 126571), (126579, 126579), (126584, 126584), (126589, 126589), (126591, 126591),
   (126602, 126602), (126620, 126624), (126628, 126628), (126634, 126634), (126652, 126703),
   (126706, 126975), (127020, 127023), (127124, 127135), (127151, 127152), (127168, 127168),
   (127184, 127184), (127222, 127231), (127406, 127461), (127491, 127503), (127548, 127551),
   (127561, 127567), (127570, 127583), (127590, 127743), (128729, 128731), (128749, 128751),
   (128765, 128767), (128986, 128991), (129004, 129007), (129009, 129023), (129036, 129039),
   (129096, 129103), (129114, 129119), (129160, 129167), (129198, 129199), (129212, 129215),
   (129218, 129231), (129241, 129279), (129624, 129631), (129646, 129647), (129661, 129663),
   (129675, 129677), (129735, 129735), (129737, 129740), (129757, 129758), (129771, 129774),
   (129785, 129791), (129939, 129939), (130043, 131071), (173792, 173823), (178206, 178207),
   (183982, 183983), (191457, 191471), (192094, 194559), (195102, 196607), (201547, 201551),
   (210042, 1114111)]

end Dataflow.Text.CharTable
