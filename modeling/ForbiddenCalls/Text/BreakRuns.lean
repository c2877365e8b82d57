import ForbiddenCalls.Text.CharRun

/-!
# Runs of break classes

The Unicode property `Line_Break`, for the code points from 128 on: a list of runs
for every class that is too large to be written down where it is used.  Code points
that are in no list and are not named by `BreakClass.of` are letters, which stand
for everything that has no rules of its own.
-/

namespace ForbiddenCalls.Text

set_option maxRecDepth 4000

/-- Combining marks and controls. -/
def markRuns : List CharRun :=
  [⟨128, 132, 1⟩, ⟨134, 159, 1⟩, ⟨768, 846, 1⟩, ⟨848, 859, 1⟩, ⟨867, 879, 1⟩, ⟨1155, 1161, 1⟩,
    ⟨1425, 1469, 1⟩, ⟨1471, 1471, 1⟩, ⟨1473, 1474, 1⟩, ⟨1476, 1477, 1⟩, ⟨1479, 1479, 1⟩,
    ⟨1552, 1562, 1⟩, ⟨1564, 1564, 1⟩, ⟨1611, 1631, 1⟩, ⟨1648, 1648, 1⟩, ⟨1750, 1756, 1⟩,
    ⟨1759, 1764, 1⟩, ⟨1767, 1768, 1⟩, ⟨1770, 1773, 1⟩, ⟨1809, 1809, 1⟩, ⟨1840, 1866, 1⟩,
    ⟨1958, 1968, 1⟩, ⟨2027, 2035, 1⟩, ⟨2045, 2045, 1⟩, ⟨2070, 2073, 1⟩, ⟨2075, 2083, 1⟩,
    ⟨2085, 2087, 1⟩, ⟨2089, 2093, 1⟩, ⟨2137, 2139, 1⟩, ⟨2200, 2207, 1⟩, ⟨2250, 2273, 1⟩,
    ⟨2275, 2307, 1⟩, ⟨2362, 2364, 1⟩, ⟨2366, 2383, 1⟩, ⟨2385, 2391, 1⟩, ⟨2402, 2403, 1⟩,
    ⟨2433, 2435, 1⟩, ⟨2492, 2492, 1⟩, ⟨2494, 2500, 1⟩, ⟨2503, 2504, 1⟩, ⟨2507, 2509, 1⟩,
    ⟨2519, 2519, 1⟩, ⟨2530, 2531, 1⟩, ⟨2558, 2558, 1⟩, ⟨2561, 2563, 1⟩, ⟨2620, 2620, 1⟩,
    ⟨2622, 2626, 1⟩, ⟨2631, 2632, 1⟩, ⟨2635, 2637, 1⟩, ⟨2641, 2641, 1⟩, ⟨2672, 2673, 1⟩,
    ⟨2677, 2677, 1⟩, ⟨2689, 2691, 1⟩, ⟨2748, 2748, 1⟩, ⟨2750, 2757, 1⟩, ⟨2759, 2761, 1⟩,
    ⟨2763, 2765, 1⟩, ⟨2786, 2787, 1⟩, ⟨2810, 2815, 1⟩, ⟨2817, 2819, 1⟩, ⟨2876, 2876, 1⟩,
    ⟨2878, 2884, 1⟩, ⟨2887, 2888, 1⟩, ⟨2891, 2893, 1⟩, ⟨2901, 2903, 1⟩, ⟨2914, 2915, 1⟩,
    ⟨2946, 2946, 1⟩, ⟨3006, 3010, 1⟩, ⟨3014, 3016, 1⟩, ⟨3018, 3021, 1⟩, ⟨3031, 3031, 1⟩,
    ⟨3072, 3076, 1⟩, ⟨3132, 3132, 1⟩, ⟨3134, 3140, 1⟩, ⟨3142, 3144, 1⟩, ⟨3146, 3149, 1⟩,
    ⟨3157, 3158, 1⟩, ⟨3170, 3171, 1⟩, ⟨3201, 3203, 1⟩, ⟨3260, 3260, 1⟩, ⟨3262, 3268, 1⟩,
    ⟨3270, 3272, 1⟩, ⟨3274, 3277, 1⟩, ⟨3285, 3286, 1⟩, ⟨3298, 3299, 1⟩, ⟨3315, 3315, 1⟩,
    ⟨3328, 3331, 1⟩, ⟨3387, 3388, 1⟩, ⟨3390, 3396, 1⟩, ⟨3398, 3400, 1⟩, ⟨3402, 3405, 1⟩,
    ⟨3415, 3415, 1⟩, ⟨3426, 3427, 1⟩, ⟨3457, 3459, 1⟩, ⟨3530, 3530, 1⟩, ⟨3535, 3540, 1⟩,
    ⟨3542, 3542, 1⟩, ⟨3544, 3551, 1⟩, ⟨3570, 3571, 1⟩, ⟨3864, 3865, 1⟩, ⟨3893, 3897, 2⟩,
    ⟨3902, 3903, 1⟩, ⟨3953, 3966, 1⟩, ⟨3968, 3972, 1⟩, ⟨3974, 3975, 1⟩, ⟨3981, 3991, 1⟩,
    ⟨3993, 4028, 1⟩, ⟨4038, 4038, 1⟩, ⟨4957, 4959, 1⟩, ⟨5906, 5909, 1⟩, ⟨5938, 5940, 1⟩,
    ⟨5970, 5971, 1⟩, ⟨6002, 6003, 1⟩, ⟨6155, 6157, 1⟩, ⟨6159, 6159, 1⟩, ⟨6277, 6278, 1⟩,
    ⟨6313, 6313, 1⟩, ⟨6432, 6443, 1⟩, ⟨6448, 6459, 1⟩, ⟨6679, 6683, 1⟩, ⟨6783, 6783, 1⟩,
    ⟨6832, 6862, 1⟩, ⟨6912, 6916, 1⟩, ⟨6964, 6980, 1⟩, ⟨7019, 7027, 1⟩, ⟨7040, 7042, 1⟩,
    ⟨7073, 7085, 1⟩, ⟨7142, 7155, 1⟩, ⟨7204, 7223, 1⟩, ⟨7376, 7378, 1⟩, ⟨7380, 7400, 1⟩,
    ⟨7405, 7405, 1⟩, ⟨7412, 7412, 1⟩, ⟨7415, 7417, 1⟩, ⟨7616, 7628, 1⟩, ⟨7630, 7675, 1⟩,
    ⟨7677, 7679, 1⟩, ⟨8204, 8204, 1⟩, ⟨8206, 8207, 1⟩, ⟨8234, 8238, 1⟩, ⟨8294, 8303, 1⟩,
    ⟨8400, 8432, 1⟩, ⟨11503, 11505, 1⟩, ⟨11647, 11647, 1⟩, ⟨11744, 11775, 1⟩, ⟨12330, 12335, 1⟩,
    ⟨12341, 12341, 1⟩, ⟨12441, 12442, 1⟩, ⟨42607, 42610, 1⟩, ⟨42612, 42621, 1⟩, ⟨42654, 42655, 1⟩,
    ⟨42736, 42737, 1⟩, ⟨43010, 43010, 1⟩, ⟨43014, 43014, 1⟩, ⟨43019, 43019, 1⟩, ⟨43043, 43047, 1⟩,
    ⟨43052, 43052, 1⟩, ⟨43136, 43137, 1⟩, ⟨43188, 43205, 1⟩, ⟨43232, 43249, 1⟩, ⟨43263, 43263, 1⟩,
    ⟨43302, 43309, 1⟩, ⟨43335, 43347, 1⟩, ⟨43392, 43395, 1⟩, ⟨43443, 43456, 1⟩, ⟨43561, 43574, 1⟩,
    ⟨43587, 43587, 1⟩, ⟨43596, 43597, 1⟩, ⟨43755, 43759, 1⟩, ⟨43765, 43766, 1⟩, ⟨44003, 44010, 1⟩,
    ⟨44012, 44013, 1⟩, ⟨64286, 64286, 1⟩, ⟨65024, 65039, 1⟩, ⟨65056, 65071, 1⟩, ⟨65529, 65531, 1⟩,
    ⟨66045, 66045, 1⟩, ⟨66272, 66272, 1⟩, ⟨66422, 66426, 1⟩, ⟨68097, 68099, 1⟩, ⟨68101, 68102, 1⟩,
    ⟨68108, 68111, 1⟩, ⟨68152, 68154, 1⟩, ⟨68159, 68159, 1⟩, ⟨68325, 68326, 1⟩, ⟨68900, 68903, 1⟩,
    ⟨69291, 69292, 1⟩, ⟨69373, 69375, 1⟩, ⟨69446, 69456, 1⟩, ⟨69506, 69509, 1⟩, ⟨69632, 69634, 1⟩,
    ⟨69688, 69702, 1⟩, ⟨69744, 69744, 1⟩, ⟨69747, 69748, 1⟩, ⟨69759, 69762, 1⟩, ⟨69808, 69818, 1⟩,
    ⟨69826, 69826, 1⟩, ⟨69888, 69890, 1⟩, ⟨69927, 69940, 1⟩, ⟨69957, 69958, 1⟩, ⟨70003, 70003, 1⟩,
    ⟨70016, 70018, 1⟩, ⟨70067, 70080, 1⟩, ⟨70089, 70092, 1⟩, ⟨70094, 70095, 1⟩, ⟨70188, 70199, 1⟩,
    ⟨70206, 70206, 1⟩, ⟨70209, 70209, 1⟩, ⟨70367, 70378, 1⟩, ⟨70400, 70403, 1⟩, ⟨70459, 70460, 1⟩,
    ⟨70462, 70468, 1⟩, ⟨70471, 70472, 1⟩, ⟨70475, 70477, 1⟩, ⟨70487, 70487, 1⟩, ⟨70498, 70499, 1⟩,
    ⟨70502, 70508, 1⟩, ⟨70512, 70516, 1⟩, ⟨70709, 70726, 1⟩, ⟨70750, 70750, 1⟩, ⟨70832, 70851, 1⟩,
    ⟨71087, 71093, 1⟩, ⟨71096, 71104, 1⟩, ⟨71132, 71133, 1⟩, ⟨71216, 71232, 1⟩, ⟨71339, 71351, 1⟩,
    ⟨71724, 71738, 1⟩, ⟨71984, 71989, 1⟩, ⟨71991, 71992, 1⟩, ⟨71995, 71998, 1⟩, ⟨72000, 72000, 1⟩,
    ⟨72002, 72003, 1⟩, ⟨72145, 72151, 1⟩, ⟨72154, 72160, 1⟩, ⟨72164, 72164, 1⟩, ⟨72193, 72202, 1⟩,
    ⟨72243, 72249, 1⟩, ⟨72251, 72254, 1⟩, ⟨72263, 72263, 1⟩, ⟨72273, 72283, 1⟩, ⟨72330, 72345, 1⟩,
    ⟨72751, 72758, 1⟩, ⟨72760, 72767, 1⟩, ⟨72850, 72871, 1⟩, ⟨72873, 72886, 1⟩, ⟨73009, 73014, 1⟩,
    ⟨73018, 73018, 1⟩, ⟨73020, 73021, 1⟩, ⟨73023, 73029, 1⟩, ⟨73031, 73031, 1⟩, ⟨73098, 73102, 1⟩,
    ⟨73104, 73105, 1⟩, ⟨73107, 73111, 1⟩, ⟨73459, 73462, 1⟩, ⟨73472, 73473, 1⟩, ⟨73475, 73475, 1⟩,
    ⟨73524, 73530, 1⟩, ⟨73534, 73538, 1⟩, ⟨78912, 78912, 1⟩, ⟨78919, 78933, 1⟩, ⟨92912, 92916, 1⟩,
    ⟨92976, 92982, 1⟩, ⟨94031, 94031, 1⟩, ⟨94033, 94087, 1⟩, ⟨94095, 94098, 1⟩, ⟨94192, 94193, 1⟩,
    ⟨113821, 113822, 1⟩, ⟨113824, 113827, 1⟩, ⟨118528, 118573, 1⟩, ⟨118576, 118598, 1⟩,
    ⟨119141, 119145, 1⟩, ⟨119149, 119170, 1⟩, ⟨119173, 119179, 1⟩, ⟨119210, 119213, 1⟩,
    ⟨119362, 119364, 1⟩, ⟨121344, 121398, 1⟩, ⟨121403, 121452, 1⟩, ⟨121461, 121461, 1⟩,
    ⟨121476, 121476, 1⟩, ⟨121499, 121503, 1⟩, ⟨121505, 121519, 1⟩, ⟨122880, 122886, 1⟩,
    ⟨122888, 122904, 1⟩, ⟨122907, 122913, 1⟩, ⟨122915, 122916, 1⟩, ⟨122918, 122922, 1⟩,
    ⟨123023, 123023, 1⟩, ⟨123184, 123190, 1⟩, ⟨123566, 123566, 1⟩, ⟨123628, 123631, 1⟩,
    ⟨124140, 124143, 1⟩, ⟨125136, 125142, 1⟩, ⟨125252, 125258, 1⟩, ⟨917505, 917505, 1⟩,
    ⟨917536, 917631, 1⟩, ⟨917760, 917999, 1⟩]

/-- Characters that hold their neighbours. -/
def glueRuns : List CharRun :=
  [⟨160, 160, 1⟩, ⟨847, 847, 1⟩, ⟨860, 866, 1⟩, ⟨3848, 3848, 1⟩, ⟨3852, 3852, 1⟩, ⟨3858, 3858, 1⟩,
    ⟨4057, 4058, 1⟩, ⟨6158, 6158, 1⟩, ⟨7629, 7629, 1⟩, ⟨7676, 7676, 1⟩, ⟨8199, 8199, 1⟩,
    ⟨8209, 8209, 1⟩, ⟨8239, 8239, 1⟩, ⟨78896, 78902, 1⟩, ⟨78905, 78907, 1⟩, ⟨94180, 94180, 1⟩]

/-- Blanks, dashes and other characters that a line may be broken after. -/
def breakAfterRuns : List CharRun :=
  [⟨173, 173, 1⟩, ⟨1418, 1418, 1⟩, ⟨1470, 1470, 1⟩, ⟨2404, 2405, 1⟩, ⟨3674, 3675, 1⟩,
    ⟨3851, 3851, 1⟩, ⟨3892, 3892, 1⟩, ⟨3967, 3967, 1⟩, ⟨3973, 3973, 1⟩, ⟨4030, 4031, 1⟩,
    ⟨4050, 4050, 1⟩, ⟨4170, 4171, 1⟩, ⟨4961, 4961, 1⟩, ⟨5120, 5120, 1⟩, ⟨5760, 5760, 1⟩,
    ⟨5867, 5869, 1⟩, ⟨5941, 5942, 1⟩, ⟨6100, 6101, 1⟩, ⟨6104, 6106, 2⟩, ⟨6148, 6149, 1⟩,
    ⟨7002, 7003, 1⟩, ⟨7005, 7008, 1⟩, ⟨7037, 7038, 1⟩, ⟨7227, 7231, 1⟩, ⟨7294, 7295, 1⟩,
    ⟨8192, 8198, 1⟩, ⟨8200, 8202, 1⟩, ⟨8208, 8208, 1⟩, ⟨8210, 8211, 1⟩, ⟨8231, 8231, 1⟩,
    ⟨8278, 8278, 1⟩, ⟨8280, 8283, 1⟩, ⟨8285, 8287, 1⟩, ⟨11514, 11516, 1⟩, ⟨11519, 11519, 1⟩,
    ⟨11632, 11632, 1⟩, ⟨11790, 11797, 1⟩, ⟨11799, 11801, 2⟩, ⟨11818, 11821, 1⟩, ⟨11824, 11825, 1⟩,
    ⟨11827, 11828, 1⟩, ⟨11836, 11838, 1⟩, ⟨11840, 11841, 1⟩, ⟨11843, 11850, 1⟩, ⟨11852, 11852, 1⟩,
    ⟨11854, 11855, 1⟩, ⟨11869, 11869, 1⟩, ⟨12288, 12288, 1⟩, ⟨42238, 42239, 1⟩, ⟨42509, 42511, 2⟩,
    ⟨42739, 42743, 1⟩, ⟨43214, 43215, 1⟩, ⟨43310, 43311, 1⟩, ⟨43463, 43465, 1⟩, ⟨43613, 43615, 1⟩,
    ⟨43760, 43761, 1⟩, ⟨44011, 44011, 1⟩, ⟨65792, 65794, 1⟩, ⟨66463, 66463, 1⟩, ⟨66512, 66512, 1⟩,
    ⟨67671, 67671, 1⟩, ⟨67871, 67871, 1⟩, ⟨68176, 68183, 1⟩, ⟨68336, 68341, 1⟩, ⟨68409, 68415, 1⟩,
    ⟨69293, 69293, 1⟩, ⟨69703, 69704, 1⟩, ⟨69822, 69825, 1⟩, ⟨69952, 69955, 1⟩, ⟨70085, 70086, 1⟩,
    ⟨70088, 70088, 1⟩, ⟨70109, 70111, 1⟩, ⟨70200, 70201, 1⟩, ⟨70203, 70204, 1⟩, ⟨70313, 70313, 1⟩,
    ⟨70731, 70734, 1⟩, ⟨70746, 70747, 1⟩, ⟨71106, 71107, 1⟩, ⟨71113, 71127, 1⟩, ⟨71233, 71234, 1⟩,
    ⟨71484, 71486, 1⟩, ⟨72004, 72006, 1⟩, ⟨72257, 72260, 1⟩, ⟨72346, 72348, 1⟩, ⟨72353, 72354, 1⟩,
    ⟨72769, 72773, 1⟩, ⟨73539, 73540, 1⟩, ⟨73727, 73727, 1⟩, ⟨74864, 74868, 1⟩, ⟨92782, 92783, 1⟩,
    ⟨92917, 92917, 1⟩, ⟨92983, 92985, 1⟩, ⟨92996, 92996, 1⟩, ⟨93847, 93848, 1⟩, ⟨113823, 113823, 1⟩,
    ⟨121479, 121482, 1⟩]

/-- Characters that a line may be broken in front of. -/
def breakBeforeRuns : List CharRun :=
  [⟨180, 180, 1⟩, ⟨712, 712, 1⟩, ⟨716, 716, 1⟩, ⟨735, 735, 1⟩, ⟨3191, 3191, 1⟩, ⟨3204, 3204, 1⟩,
    ⟨3841, 3844, 1⟩, ⟨3846, 3847, 1⟩, ⟨3849, 3850, 1⟩, ⟨4048, 4049, 1⟩, ⟨4051, 4051, 1⟩,
    ⟨6150, 6150, 1⟩, ⟨8189, 8189, 1⟩, ⟨43124, 43125, 1⟩, ⟨43260, 43260, 1⟩, ⟨70005, 70005, 1⟩,
    ⟨70107, 70107, 1⟩, ⟨71105, 71105, 1⟩, ⟨71264, 71276, 1⟩, ⟨72162, 72162, 1⟩, ⟨72255, 72255, 1⟩,
    ⟨72261, 72261, 1⟩, ⟨72350, 72352, 1⟩, ⟨72448, 72457, 1⟩, ⟨72816, 72816, 1⟩]

/-- Opening punctuation that is not wide. -/
def openingRuns : List CharRun :=
  [⟨161, 161, 1⟩, ⟨191, 191, 1⟩, ⟨3898, 3900, 2⟩, ⟨5787, 5787, 1⟩, ⟨8218, 8218, 1⟩, ⟨8222, 8222, 1⟩,
    ⟨8261, 8261, 1⟩, ⟨8317, 8317, 1⟩, ⟨8333, 8333, 1⟩, ⟨8968, 8970, 2⟩, ⟨10088, 10100, 2⟩,
    ⟨10181, 10181, 1⟩, ⟨10214, 10222, 2⟩, ⟨10627, 10647, 2⟩, ⟨10712, 10714, 2⟩, ⟨10748, 10748, 1⟩,
    ⟨11800, 11800, 1⟩, ⟨11810, 11816, 2⟩, ⟨11842, 11842, 1⟩, ⟨11861, 11867, 2⟩, ⟨64831, 64831, 1⟩,
    ⟨78424, 78426, 1⟩, ⟨78470, 78472, 2⟩, ⟨78713, 78713, 1⟩, ⟨78903, 78903, 1⟩, ⟨78908, 78910, 2⟩,
    ⟨83406, 83406, 1⟩, ⟨125278, 125279, 1⟩]

/-- Wide opening punctuation. -/
def wideOpeningRuns : List CharRun :=
  [⟨9001, 9001, 1⟩, ⟨12296, 12304, 2⟩, ⟨12308, 12314, 2⟩, ⟨12317, 12317, 1⟩, ⟨65047, 65047, 1⟩,
    ⟨65077, 65091, 2⟩, ⟨65095, 65095, 1⟩, ⟨65113, 65117, 2⟩, ⟨65288, 65288, 1⟩, ⟨65339, 65339, 1⟩,
    ⟨65371, 65371, 1⟩, ⟨65375, 65375, 1⟩, ⟨65378, 65378, 1⟩]

/-- Closing punctuation. -/
def closingRuns : List CharRun :=
  [⟨3899, 3901, 2⟩, ⟨5788, 5788, 1⟩, ⟨8262, 8262, 1⟩, ⟨8318, 8318, 1⟩, ⟨8334, 8334, 1⟩,
    ⟨8969, 8971, 2⟩, ⟨9002, 9002, 1⟩, ⟨10089, 10101, 2⟩, ⟨10182, 10182, 1⟩, ⟨10215, 10223, 2⟩,
    ⟨10628, 10648, 2⟩, ⟨10713, 10715, 2⟩, ⟨10749, 10749, 1⟩, ⟨11811, 11817, 2⟩, ⟨11862, 11868, 2⟩,
    ⟨12289, 12290, 1⟩, ⟨12297, 12305, 2⟩, ⟨12309, 12315, 2⟩, ⟨12318, 12319, 1⟩, ⟨64830, 64830, 1⟩,
    ⟨65041, 65042, 1⟩, ⟨65048, 65048, 1⟩, ⟨65078, 65092, 2⟩, ⟨65096, 65096, 1⟩, ⟨65104, 65106, 2⟩,
    ⟨65114, 65118, 2⟩, ⟨65289, 65289, 1⟩, ⟨65292, 65294, 2⟩, ⟨65341, 65341, 1⟩, ⟨65373, 65373, 1⟩,
    ⟨65376, 65377, 1⟩, ⟨65379, 65380, 1⟩, ⟨78427, 78429, 1⟩, ⟨78466, 78466, 1⟩, ⟨78471, 78473, 2⟩,
    ⟨78714, 78715, 1⟩, ⟨78904, 78904, 1⟩, ⟨78909, 78911, 2⟩, ⟨83407, 83407, 1⟩]

/-- Exclamation and question marks. -/
def exclamationRuns : List CharRun :=
  [⟨1478, 1478, 1⟩, ⟨1563, 1563, 1⟩, ⟨1565, 1567, 1⟩, ⟨1748, 1748, 1⟩, ⟨2041, 2041, 1⟩,
    ⟨3853, 3857, 1⟩, ⟨3860, 3860, 1⟩, ⟨6146, 6147, 1⟩, ⟨6152, 6153, 1⟩, ⟨6468, 6469, 1⟩,
    ⟨10082, 10083, 1⟩, ⟨11513, 11513, 1⟩, ⟨11518, 11518, 1⟩, ⟨11822, 11822, 1⟩, ⟨11859, 11860, 1⟩,
    ⟨42510, 42510, 1⟩, ⟨43126, 43127, 1⟩, ⟨65045, 65046, 1⟩, ⟨65110, 65111, 1⟩, ⟨65281, 65281, 1⟩,
    ⟨65311, 65311, 1⟩, ⟨71108, 71109, 1⟩, ⟨72817, 72817, 1⟩]

/-- Quotation marks. -/
def quotationRuns : List CharRun :=
  [⟨171, 171, 1⟩, ⟨187, 187, 1⟩, ⟨8216, 8217, 1⟩, ⟨8219, 8221, 1⟩, ⟨8223, 8223, 1⟩, ⟨8249, 8250, 1⟩,
    ⟨10075, 10080, 1⟩, ⟨11776, 11789, 1⟩, ⟨11804, 11805, 1⟩, ⟨11808, 11809, 1⟩, ⟨128630, 128632, 1⟩]

/-- Characters that do not begin a line. -/
def nonstarterRuns : List CharRun :=
  [⟨6102, 6102, 1⟩, ⟨8252, 8253, 1⟩, ⟨8263, 8265, 1⟩, ⟨12293, 12293, 1⟩, ⟨12316, 12316, 1⟩,
    ⟨12347, 12348, 1⟩, ⟨12353, 12361, 2⟩, ⟨12387, 12387, 1⟩, ⟨12419, 12423, 2⟩, ⟨12430, 12430, 1⟩,
    ⟨12437, 12438, 1⟩, ⟨12443, 12446, 1⟩, ⟨12448, 12449, 1⟩, ⟨12451, 12457, 2⟩, ⟨12483, 12483, 1⟩,
    ⟨12515, 12519, 2⟩, ⟨12526, 12526, 1⟩, ⟨12533, 12534, 1⟩, ⟨12539, 12542, 1⟩, ⟨12784, 12799, 1⟩,
    ⟨40981, 40981, 1⟩, ⟨65108, 65109, 1⟩, ⟨65306, 65307, 1⟩, ⟨65381, 65381, 1⟩, ⟨65383, 65392, 1⟩,
    ⟨65438, 65439, 1⟩, ⟨94176, 94179, 1⟩, ⟨110898, 110898, 1⟩, ⟨110928, 110930, 1⟩,
    ⟨110933, 110933, 1⟩, ⟨110948, 110951, 1⟩, ⟨128633, 128635, 1⟩]

/-- Leaders. -/
def inseparableRuns : List CharRun :=
  [⟨8228, 8230, 1⟩, ⟨8943, 8943, 1⟩, ⟨65049, 65049, 1⟩, ⟨68342, 68342, 1⟩]

/-- Separators inside numbers. -/
def infixRuns : List CharRun :=
  [⟨894, 894, 1⟩, ⟨1417, 1417, 1⟩, ⟨1548, 1549, 1⟩, ⟨2040, 2040, 1⟩, ⟨8260, 8260, 1⟩,
    ⟨65040, 65040, 1⟩, ⟨65043, 65044, 1⟩]

/-- Digits. -/
def numeralRuns : List CharRun :=
  [⟨1632, 1641, 1⟩, ⟨1643, 1644, 1⟩, ⟨1776, 1785, 1⟩, ⟨1984, 1993, 1⟩, ⟨2406, 2415, 1⟩,
    ⟨2534, 2543, 1⟩, ⟨2662, 2671, 1⟩, ⟨2790, 2799, 1⟩, ⟨2918, 2927, 1⟩, ⟨3046, 3055, 1⟩,
    ⟨3174, 3183, 1⟩, ⟨3302, 3311, 1⟩, ⟨3430, 3439, 1⟩, ⟨3558, 3567, 1⟩, ⟨3664, 3673, 1⟩,
    ⟨3792, 3801, 1⟩, ⟨3872, 3881, 1⟩, ⟨4160, 4169, 1⟩, ⟨4240, 4249, 1⟩, ⟨6112, 6121, 1⟩,
    ⟨6160, 6169, 1⟩, ⟨6470, 6479, 1⟩, ⟨6608, 6617, 1⟩, ⟨6784, 6793, 1⟩, ⟨6800, 6809, 1⟩,
    ⟨6992, 7001, 1⟩, ⟨7088, 7097, 1⟩, ⟨7232, 7241, 1⟩, ⟨7248, 7257, 1⟩, ⟨42528, 42537, 1⟩,
    ⟨43216, 43225, 1⟩, ⟨43264, 43273, 1⟩, ⟨43472, 43481, 1⟩, ⟨43504, 43513, 1⟩, ⟨43600, 43609, 1⟩,
    ⟨44016, 44025, 1⟩, ⟨66720, 66729, 1⟩, ⟨68912, 68921, 1⟩, ⟨69734, 69743, 1⟩, ⟨69872, 69881, 1⟩,
    ⟨69942, 69951, 1⟩, ⟨70096, 70105, 1⟩, ⟨70384, 70393, 1⟩, ⟨70736, 70745, 1⟩, ⟨70864, 70873, 1⟩,
    ⟨71248, 71257, 1⟩, ⟨71360, 71369, 1⟩, ⟨71472, 71481, 1⟩, ⟨71904, 71913, 1⟩, ⟨72016, 72025, 1⟩,
    ⟨72784, 72793, 1⟩, ⟨73040, 73049, 1⟩, ⟨73120, 73129, 1⟩, ⟨73552, 73561, 1⟩, ⟨92768, 92777, 1⟩,
    ⟨92864, 92873, 1⟩, ⟨93008, 93017, 1⟩, ⟨120782, 120831, 1⟩, ⟨123200, 123209, 1⟩,
    ⟨123632, 123641, 1⟩, ⟨124144, 124153, 1⟩, ⟨125264, 125273, 1⟩, ⟨130032, 130041, 1⟩]

/-- Signs in front of numbers. -/
def prefixSignRuns : List CharRun :=
  [⟨163, 165, 1⟩, ⟨177, 177, 1⟩, ⟨1423, 1423, 1⟩, ⟨2046, 2047, 1⟩, ⟨2555, 2555, 1⟩, ⟨2801, 2801, 1⟩,
    ⟨3065, 3065, 1⟩, ⟨3647, 3647, 1⟩, ⟨6107, 6107, 1⟩, ⟨8352, 8358, 1⟩, ⟨8360, 8373, 1⟩,
    ⟨8375, 8378, 1⟩, ⟨8380, 8381, 1⟩, ⟨8383, 8383, 1⟩, ⟨8385, 8399, 1⟩, ⟨8470, 8470, 1⟩,
    ⟨8722, 8723, 1⟩, ⟨65129, 65129, 1⟩, ⟨65284, 65284, 1⟩, ⟨65505, 65505, 1⟩, ⟨65509, 65510, 1⟩,
    ⟨123647, 123647, 1⟩]

/-- Signs after numbers. -/
def postfixSignRuns : List CharRun :=
  [⟨162, 162, 1⟩, ⟨176, 176, 1⟩, ⟨1545, 1547, 1⟩, ⟨1642, 1642, 1⟩, ⟨2546, 2547, 1⟩, ⟨2553, 2553, 1⟩,
    ⟨3449, 3449, 1⟩, ⟨8240, 8247, 1⟩, ⟨8279, 8279, 1⟩, ⟨8359, 8359, 1⟩, ⟨8374, 8374, 1⟩,
    ⟨8379, 8379, 1⟩, ⟨8382, 8384, 2⟩, ⟨8451, 8451, 1⟩, ⟨8457, 8457, 1⟩, ⟨43064, 43064, 1⟩,
    ⟨65020, 65020, 1⟩, ⟨65130, 65130, 1⟩, ⟨65285, 65285, 1⟩, ⟨65504, 65504, 1⟩, ⟨73693, 73696, 1⟩,
    ⟨126124, 126124, 1⟩, ⟨126128, 126128, 1⟩]

/-- Hebrew letters. -/
def hebrewRuns : List CharRun :=
  [⟨1488, 1514, 1⟩, ⟨1519, 1522, 1⟩, ⟨64285, 64285, 1⟩, ⟨64287, 64296, 1⟩, ⟨64298, 64310, 1⟩,
    ⟨64312, 64316, 1⟩, ⟨64318, 64318, 1⟩, ⟨64320, 64321, 1⟩, ⟨64323, 64324, 1⟩, ⟨64326, 64335, 1⟩]

/-- Leading consonants of Hangul. -/
def leadingJamoRuns : List CharRun :=
  [⟨4352, 4447, 1⟩, ⟨43360, 43388, 1⟩]

/-- Vowels of Hangul. -/
def vowelJamoRuns : List CharRun :=
  [⟨4448, 4519, 1⟩, ⟨55216, 55238, 1⟩]

/-- Trailing consonants of Hangul. -/
def trailingJamoRuns : List CharRun :=
  [⟨4520, 4607, 1⟩, ⟨55243, 55291, 1⟩]

/-- Pictographs that take a modifier. -/
def emojiBaseRuns : List CharRun :=
  [⟨9757, 9757, 1⟩, ⟨9977, 9977, 1⟩, ⟨9994, 9997, 1⟩, ⟨127877, 127877, 1⟩, ⟨127938, 127940, 1⟩,
    ⟨127943, 127943, 1⟩, ⟨127946, 127948, 1⟩, ⟨128066, 128067, 1⟩, ⟨128070, 128080, 1⟩,
    ⟨128102, 128120, 1⟩, ⟨128124, 128124, 1⟩, ⟨128129, 128131, 1⟩, ⟨128133, 128135, 1⟩,
    ⟨128143, 128145, 2⟩, ⟨128170, 128170, 1⟩, ⟨128372, 128373, 1⟩, ⟨128378, 128378, 1⟩,
    ⟨128400, 128400, 1⟩, ⟨128405, 128406, 1⟩, ⟨128581, 128583, 1⟩, ⟨128587, 128591, 1⟩,
    ⟨128675, 128675, 1⟩, ⟨128692, 128694, 1⟩, ⟨128704, 128704, 1⟩, ⟨128716, 128716, 1⟩,
    ⟨129292, 129292, 1⟩, ⟨129295, 129295, 1⟩, ⟨129304, 129311, 1⟩, ⟨129318, 129318, 1⟩,
    ⟨129328, 129337, 1⟩, ⟨129340, 129342, 1⟩, ⟨129399, 129399, 1⟩, ⟨129461, 129462, 1⟩,
    ⟨129464, 129465, 1⟩, ⟨129467, 129467, 1⟩, ⟨129485, 129487, 1⟩, ⟨129489, 129501, 1⟩,
    ⟨129731, 129733, 1⟩, ⟨129776, 129784, 1⟩]

/-- Code points that are kept free for pictographs. -/
def reservedPictographRuns : List CharRun :=
  [⟨127020, 127023, 1⟩, ⟨127124, 127135, 1⟩, ⟨127151, 127152, 1⟩, ⟨127168, 127168, 1⟩,
    ⟨127184, 127184, 1⟩, ⟨127222, 127231, 1⟩, ⟨127406, 127461, 1⟩, ⟨127491, 127503, 1⟩,
    ⟨127548, 127551, 1⟩, ⟨127561, 127567, 1⟩, ⟨127570, 127583, 1⟩, ⟨127590, 127743, 1⟩,
    ⟨128728, 128731, 1⟩, ⟨128749, 128751, 1⟩, ⟨128765, 128767, 1⟩, ⟨128887, 128890, 1⟩,
    ⟨128986, 128991, 1⟩, ⟨129004, 129007, 1⟩, ⟨129009, 129023, 1⟩, ⟨129036, 129039, 1⟩,
    ⟨129096, 129103, 1⟩, ⟨129114, 129119, 1⟩, ⟨129160, 129167, 1⟩, ⟨129198, 129199, 1⟩,
    ⟨129202, 129279, 1⟩, ⟨129620, 129631, 1⟩, ⟨129646, 129647, 1⟩, ⟨129661, 129663, 1⟩,
    ⟨129673, 129679, 1⟩, ⟨129726, 129726, 1⟩, ⟨129734, 129741, 1⟩, ⟨129756, 129759, 1⟩,
    ⟨129769, 129775, 1⟩, ⟨129785, 129791, 1⟩, ⟨130048, 131069, 1⟩]

/-- Ideographs, kana and pictographs; those kept free for pictographs are among them. -/
def ideographRuns : List CharRun :=
  [⟨8986, 8987, 1⟩, ⟨9200, 9203, 1⟩, ⟨9728, 9731, 1⟩, ⟨9748, 9749, 1⟩, ⟨9752, 9752, 1⟩,
    ⟨9754, 9756, 1⟩, ⟨9758, 9759, 1⟩, ⟨9785, 9787, 1⟩, ⟨9832, 9832, 1⟩, ⟨9855, 9855, 1⟩,
    ⟨9917, 9928, 1⟩, ⟨9933, 9933, 1⟩, ⟨9935, 9937, 1⟩, ⟨9939, 9940, 1⟩, ⟨9944, 9945, 1⟩,
    ⟨9948, 9948, 1⟩, ⟨9951, 9953, 1⟩, ⟨9962, 9962, 1⟩, ⟨9969, 9973, 1⟩, ⟨9975, 9976, 1⟩,
    ⟨9978, 9978, 1⟩, ⟨9981, 9988, 1⟩, ⟨9992, 9993, 1⟩, ⟨10084, 10084, 1⟩, ⟨11904, 11929, 1⟩,
    ⟨11931, 12019, 1⟩, ⟨12032, 12245, 1⟩, ⟨12272, 12283, 1⟩, ⟨12291, 12292, 1⟩, ⟨12294, 12295, 1⟩,
    ⟨12306, 12307, 1⟩, ⟨12320, 12329, 1⟩, ⟨12336, 12340, 1⟩, ⟨12342, 12346, 1⟩, ⟨12349, 12351, 1⟩,
    ⟨12354, 12360, 2⟩, ⟨12362, 12386, 1⟩, ⟨12388, 12418, 1⟩, ⟨12420, 12422, 2⟩, ⟨12424, 12429, 1⟩,
    ⟨12431, 12436, 1⟩, ⟨12447, 12447, 1⟩, ⟨12450, 12456, 2⟩, ⟨12458, 12482, 1⟩, ⟨12484, 12514, 1⟩,
    ⟨12516, 12518, 2⟩, ⟨12520, 12525, 1⟩, ⟨12527, 12532, 1⟩, ⟨12535, 12538, 1⟩, ⟨12543, 12543, 1⟩,
    ⟨12549, 12591, 1⟩, ⟨12593, 12686, 1⟩, ⟨12688, 12771, 1⟩, ⟨12800, 12830, 1⟩, ⟨12832, 12871, 1⟩,
    ⟨12880, 19903, 1⟩, ⟨19968, 40980, 1⟩, ⟨40982, 42124, 1⟩, ⟨42128, 42182, 1⟩, ⟨63744, 64255, 1⟩,
    ⟨65072, 65076, 1⟩, ⟨65093, 65094, 1⟩, ⟨65097, 65103, 1⟩, ⟨65105, 65105, 1⟩, ⟨65112, 65112, 1⟩,
    ⟨65119, 65126, 1⟩, ⟨65128, 65128, 1⟩, ⟨65131, 65131, 1⟩, ⟨65282, 65283, 1⟩, ⟨65286, 65287, 1⟩,
    ⟨65290, 65291, 1⟩, ⟨65293, 65293, 1⟩, ⟨65295, 65305, 1⟩, ⟨65308, 65310, 1⟩, ⟨65312, 65338, 1⟩,
    ⟨65340, 65340, 1⟩, ⟨65342, 65370, 1⟩, ⟨65372, 65374, 2⟩, ⟨65382, 65382, 1⟩, ⟨65393, 65437, 1⟩,
    ⟨65440, 65470, 1⟩, ⟨65474, 65479, 1⟩, ⟨65482, 65487, 1⟩, ⟨65490, 65495, 1⟩, ⟨65498, 65500, 1⟩,
    ⟨65506, 65508, 1⟩, ⟨73541, 73551, 1⟩, ⟨94208, 100343, 1⟩, ⟨100352, 101119, 1⟩,
    ⟨101632, 101640, 1⟩, ⟨110592, 110882, 1⟩, ⟨110960, 111355, 1⟩, ⟨126976, 127231, 1⟩,
    ⟨127245, 127247, 1⟩, ⟨127341, 127343, 1⟩, ⟨127405, 127461, 1⟩, ⟨127488, 127876, 1⟩,
    ⟨127878, 127899, 1⟩, ⟨127902, 127924, 1⟩, ⟨127927, 127931, 1⟩, ⟨127933, 127937, 1⟩,
    ⟨127941, 127942, 1⟩, ⟨127944, 127945, 1⟩, ⟨127949, 127994, 1⟩, ⟨128000, 128065, 1⟩,
    ⟨128068, 128069, 1⟩, ⟨128081, 128101, 1⟩, ⟨128121, 128123, 1⟩, ⟨128125, 128128, 1⟩,
    ⟨128132, 128132, 1⟩, ⟨128136, 128142, 1⟩, ⟨128144, 128144, 1⟩, ⟨128146, 128159, 1⟩,
    ⟨128161, 128163, 2⟩, ⟨128165, 128169, 1⟩, ⟨128171, 128174, 1⟩, ⟨128176, 128176, 1⟩,
    ⟨128179, 128255, 1⟩, ⟨128263, 128278, 1⟩, ⟨128293, 128305, 1⟩, ⟨128330, 128371, 1⟩,
    ⟨128374, 128377, 1⟩, ⟨128379, 128399, 1⟩, ⟨128401, 128404, 1⟩, ⟨128407, 128467, 1⟩,
    ⟨128476, 128499, 1⟩, ⟨128506, 128580, 1⟩, ⟨128584, 128586, 1⟩, ⟨128640, 128674, 1⟩,
    ⟨128676, 128691, 1⟩, ⟨128695, 128703, 1⟩, ⟨128705, 128715, 1⟩, ⟨128717, 128767, 1⟩,
    ⟨128884, 128895, 1⟩, ⟨128981, 129023, 1⟩, ⟨129036, 129039, 1⟩, ⟨129096, 129103, 1⟩,
    ⟨129114, 129119, 1⟩, ⟨129160, 129167, 1⟩, ⟨129198, 129279, 1⟩, ⟨129293, 129294, 1⟩,
    ⟨129296, 129303, 1⟩, ⟨129312, 129317, 1⟩, ⟨129319, 129327, 1⟩, ⟨129338, 129339, 1⟩,
    ⟨129343, 129398, 1⟩, ⟨129400, 129460, 1⟩, ⟨129463, 129463, 1⟩, ⟨129466, 129466, 1⟩,
    ⟨129468, 129484, 1⟩, ⟨129488, 129488, 1⟩, ⟨129502, 129535, 1⟩, ⟨129620, 129730, 1⟩,
    ⟨129734, 129775, 1⟩, ⟨129785, 129791, 1⟩, ⟨130048, 131069, 1⟩, ⟨131072, 196605, 1⟩,
    ⟨196608, 262141, 1⟩]

end ForbiddenCalls.Text
