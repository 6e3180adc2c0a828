import LayerMessaging.Text.Unprintable

namespace LayerMessaging.Text

/-- The characters that extend the one before them and are no marks without room of their own. -/
def spacingExtendingRanges : List (Nat × Nat) := [
  (2494, 2494), (2519, 2519), (2878, 2878), (2903, 2903), (3006, 3006), (3031, 3031),
  (3264, 3264), (3266, 3266), (3271, 3272), (3274, 3275), (3285, 3286), (3390, 3390),
  (3415, 3415), (3535, 3535), (3551, 3551), (5909, 5909), (5940, 5940), (6965, 6965),
  (6971, 6971), (6973, 6973), (6979, 6980), (7082, 7082), (7154, 7155), (8204, 8204),
  (12334, 12335), (43347, 43347), (43456, 43456), (70080, 70080), (70197, 70197), (70462, 70462),
  (70477, 70477), (70487, 70487), (70584, 70584), (70594, 70594), (70597, 70597), (70599, 70601),
  (70607, 70607), (70832, 70832), (70845, 70845), (71087, 71087), (71350, 71350), (71984, 71984),
  (71997, 71997), (73537, 73537), (94192, 94193), (119141, 119142), (119149, 119154),
  (917536, 917631)]

/-- The marks that take room of their own and extend nothing. -/
def spacingMarkRanges : List (Nat × Nat) := [
  (2307, 2307), (2363, 2363), (2366, 2368), (2377, 2380), (2382, 2383), (2434, 2435),
  (2495, 2496), (2503, 2504), (2507, 2508), (2563, 2563), (2622, 2624), (2691, 2691),
  (2750, 2752), (2761, 2761), (2763, 2764), (2818, 2819), (2880, 2880), (2887, 2888),
  (2891, 2892), (3007, 3007), (3009, 3010), (3014, 3016), (3018, 3020), (3073, 3075),
  (3137, 3140), (3202, 3203), (3262, 3262), (3265, 3265), (3267, 3268), (3315, 3315),
  (3330, 3331), (3391, 3392), (3398, 3400), (3402, 3404), (3458, 3459), (3536, 3537),
  (3544, 3550), (3570, 3571), (3902, 3903), (3967, 3967), (4139, 4140), (4145, 4145),
  (4152, 4152), (4155, 4156), (4182, 4183), (4194, 4196), (4199, 4205), (4227, 4228),
  (4231, 4236), (4239, 4239), (4250, 4252), (6070, 6070), (6078, 6085), (6087, 6088),
  (6435, 6438), (6441, 6443), (6448, 6449), (6451, 6456), (6681, 6682), (6741, 6741),
  (6743, 6743), (6753, 6753), (6755, 6756), (6765, 6770), (6916, 6916), (6974, 6977),
  (7042, 7042), (7073, 7073), (7078, 7079), (7143, 7143), (7146, 7148), (7150, 7150),
  (7204, 7211), (7220, 7221), (7393, 7393), (7415, 7415), (43043, 43044), (43047, 43047),
  (43136, 43137), (43188, 43203), (43346, 43346), (43395, 43395), (43444, 43445), (43450, 43451),
  (43454, 43455), (43567, 43568), (43571, 43572), (43597, 43597), (43643, 43643), (43645, 43645),
  (43755, 43755), (43758, 43759), (43765, 43765), (44003, 44004), (44006, 44007), (44009, 44010),
  (44012, 44012), (69632, 69632), (69634, 69634), (69762, 69762), (69808, 69810), (69815, 69816),
  (69932, 69932), (69957, 69958), (70018, 70018), (70067, 70069), (70079, 70079), (70094, 70094),
  (70188, 70190), (70194, 70195), (70368, 70370), (70402, 70403), (70463, 70463), (70465, 70468),
  (70471, 70472), (70475, 70476), (70498, 70499), (70585, 70586), (70602, 70602), (70604, 70605),
  (70709, 70711), (70720, 70721), (70725, 70725), (70833, 70834), (70841, 70841), (70843, 70844),
  (70846, 70846), (70849, 70849), (71088, 71089), (71096, 71099), (71102, 71102), (71216, 71218),
  (71227, 71228), (71230, 71230), (71340, 71340), (71342, 71343), (71454, 71454), (71456, 71457),
  (71462, 71462), (71724, 71726), (71736, 71736), (71985, 71989), (71991, 71992), (72000, 72000),
  (72002, 72002), (72145, 72147), (72156, 72159), (72164, 72164), (72249, 72249), (72279, 72280),
  (72343, 72343), (72545, 72545), (72549, 72549), (72551, 72551), (72751, 72751), (72766, 72766),
  (72873, 72873), (72881, 72881), (72884, 72884), (73098, 73102), (73107, 73108), (73110, 73110),
  (73461, 73462), (73475, 73475), (73524, 73525), (73534, 73535), (90410, 90412), (94033, 94087)]

def isNonspacing (c : Char) : Bool :=
  isExtending c && !inRanges spacingExtendingRanges c.toNat

/-- Whether a character cannot stand at the front of a text. -/
def isMark (c : Char) : Bool := isExtending c || inRanges spacingMarkRanges c.toNat

end LayerMessaging.Text
