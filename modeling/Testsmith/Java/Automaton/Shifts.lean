/-
# Where tokens lead

The maps from tokens to states that the rows refer to. Each is the map of an earlier index with some
pairs changed; the state 0 takes a token out of it.

Key definition: `shiftMaps`.
-/
import Testsmith.Parsing.Automaton

namespace Testsmith.Java

open Parsing

def shiftMapsFrom0 : Array Revision := #[
  ⟨0, []⟩,
  ⟨0, [(1, 423), (2, 513), (3, 513), (4, 513), (5, 513), (6, 513), (7, 513), (8, 513), (9, 513), (10, 513), (11, 944), (12, 892), (17, 561), (20, 513), (21, 115), (37, 657), (44, 192), (45, 192), (55, 503), (60, 192), (61, 192), (62, 193), (63, 193), (64, 781), (68, 1305), (71, 1183), (72, 8), (74, 503), (77, 256), (78, 194), (79, 15), (80, 1300), (81, 1185), (82, 1186), (83, 147), (84, 106), (85, 579), (86, 195), (87, 1013), (90, 1301), (92, 1383), (93, 903), (94, 453), (95, 425), (98, 503), (104, 133), (105, 904), (106, 893), (107, 1307), (108, 503), (109, 503), (110, 503), (111, 503), (112, 503), (113, 503), (114, 503), (115, 503), (116, 402), (117, 503), (120, 454), (121, 1308), (122, 1309), (123, 721), (124, 721), (125, 721), (126, 721), (127, 721), (128, 722), (129, 722), (130, 764), (131, 764), (134, 627), (135, 1055)]⟩,
  ⟨1, [(1, 421), (17, 0), (37, 933), (80, 1184), (90, 1187), (92, 1306), (116, 401), (134, 514), (135, 1188)]⟩,
  ⟨1, [(17, 109), (37, 0), (134, 514), (135, 1188)]⟩, ⟨3, [(17, 112)]⟩, ⟨3, [(17, 571)]⟩,
  ⟨3, [(17, 574)]⟩, ⟨3, [(17, 252)]⟩, ⟨3, [(17, 253)]⟩, ⟨3, [(17, 0)]⟩,
  ⟨9, [(1, 424), (80, 1302), (90, 1303), (92, 1384)]⟩, ⟨2, [(37, 0), (116, 402)]⟩, ⟨9, [(74, 0)]⟩,
  ⟨9, [(1, 414), (22, 934), (55, 628), (68, 0), (72, 0), (74, 628), (77, 0), (78, 0), (79, 0), (80, 0), (81, 0), (82, 0), (83, 0), (84, 134), (85, 628), (86, 0), (87, 0), (90, 0), (92, 0), (93, 924), (94, 133), (95, 133), (98, 628), (105, 0), (106, 0), (107, 0), (108, 628), (109, 628), (110, 628), (111, 628), (112, 628), (113, 628), (114, 628), (115, 628), (116, 403), (117, 628), (120, 133), (121, 0), (122, 0)]⟩,
  ⟨13, [(1, 415)]⟩, ⟨13, [(1, 413), (22, 0), (77, 152)]⟩, ⟨15, [(77, 184)]⟩, ⟨15, [(77, 188)]⟩,
  ⟨13, [(1, 819), (21, 197), (22, 1347), (44, 0), (45, 0), (60, 0), (61, 0), (62, 0), (63, 0), (64, 799), (71, 0)]⟩,
  ⟨18, [(22, 1355)]⟩, ⟨18, [(22, 0)]⟩,
  ⟨15, [(17, 1048), (55, 0), (57, 1350), (72, 124), (74, 0), (77, 0), (85, 0), (93, 925), (98, 0), (108, 0), (109, 0), (110, 0), (111, 0), (112, 0), (113, 0), (114, 0), (115, 0), (116, 133), (117, 0)]⟩,
  ⟨21, [(17, 540), (57, 1343), (72, 128)]⟩, ⟨21, [(1, 445), (17, 0), (22, 536), (57, 0)]⟩,
  ⟨21, [(17, 0), (57, 0), (72, 8), (86, 195)]⟩, ⟨23, [(22, 673)]⟩, ⟨23, [(22, 718)]⟩,
  ⟨23, [(1, 422), (22, 625), (72, 0), (75, 1264)]⟩, ⟨21, [(17, 1060), (57, 0)]⟩, ⟨28, [(17, 1064)]⟩,
  ⟨27, [(22, 633)]⟩, ⟨22, [(17, 566), (57, 0)]⟩, ⟨31, [(17, 573)]⟩, ⟨28, [(17, 0)]⟩,
  ⟨24, [(86, 0)]⟩, ⟨31, [(17, 0)]⟩,
  ⟨34, [(1, 437), (21, 117), (44, 240), (45, 240), (60, 240), (61, 240), (62, 241), (63, 241)]⟩,
  ⟨33, [(72, 0), (77, 260)]⟩, ⟨33, [(22, 506), (72, 0)]⟩, ⟨33, [(66, 635), (72, 0)]⟩,
  ⟨37, [(77, 156)]⟩, ⟨37, [(77, 158)]⟩, ⟨39, [(66, 638)]⟩, ⟨38, [(22, 20)]⟩, ⟨37, [(77, 160)]⟩,
  ⟨38, [(22, 21)]⟩, ⟨38, [(22, 23)]⟩, ⟨38, [(22, 24)]⟩, ⟨37, [(77, 164)]⟩, ⟨38, [(22, 26)]⟩,
  ⟨38, [(22, 30)]⟩, ⟨38, [(22, 31)]⟩, ⟨38, [(22, 39)]⟩, ⟨39, [(66, 460)]⟩, ⟨39, [(66, 462)]⟩,
  ⟨38, [(22, 50)]⟩, ⟨38, [(22, 51)]⟩, ⟨38, [(22, 53)]⟩, ⟨38, [(22, 54)]⟩, ⟨38, [(22, 56)]⟩,
  ⟨38, [(22, 60)]⟩, ⟨38, [(22, 61)]⟩, ⟨38, [(22, 69)]⟩, ⟨38, [(22, 80)]⟩]

def shiftMapsFrom64 : Array Revision := #[
  ⟨38, [(22, 81)]⟩, ⟨38, [(22, 83)]⟩, ⟨38, [(22, 84)]⟩, ⟨38, [(22, 86)]⟩, ⟨38, [(22, 90)]⟩,
  ⟨38, [(22, 91)]⟩, ⟨38, [(22, 99)]⟩, ⟨37, [(77, 168)]⟩, ⟨37, [(77, 169)]⟩, ⟨37, [(77, 171)]⟩,
  ⟨37, [(77, 174)]⟩, ⟨37, [(77, 176)]⟩, ⟨37, [(77, 177)]⟩, ⟨37, [(77, 179)]⟩, ⟨37, [(77, 182)]⟩,
  ⟨33, [(72, 0)]⟩, ⟨36, [(1, 418), (72, 0)]⟩, ⟨79, [(1, 420)]⟩, ⟨36, [(72, 0)]⟩,
  ⟨0, [(1, 827), (17, 107), (37, 933), (55, 503), (68, 1305), (72, 8), (74, 503), (77, 409), (85, 503), (93, 903), (98, 580), (107, 1307), (108, 503), (109, 503), (110, 503), (111, 503), (112, 503), (113, 503), (114, 503), (115, 503), (116, 503), (117, 503), (120, 1333), (121, 1308), (122, 1309), (123, 721), (124, 721), (125, 721), (126, 721), (127, 721), (128, 722), (129, 722), (130, 764), (131, 764)]⟩,
  ⟨83, [(17, 108), (77, 411)]⟩,
  ⟨79, [(1, 485), (21, 116), (44, 0), (45, 0), (60, 0), (61, 0), (62, 0), (63, 0), (71, 0), (84, 407), (94, 406), (95, 406), (104, 406), (116, 406), (120, 406), (135, 1299)]⟩,
  ⟨85, [(1, 577)]⟩, ⟨83, [(17, 0), (77, 412)]⟩, ⟨84, [(17, 0)]⟩,
  ⟨83, [(1, 698), (17, 294), (72, 0), (77, 417), (98, 503)]⟩, ⟨89, [(17, 320), (77, 419)]⟩,
  ⟨90, [(17, 0)]⟩, ⟨89, [(17, 293), (37, 0), (77, 427), (120, 0)]⟩, ⟨92, [(17, 319), (77, 428)]⟩,
  ⟨93, [(17, 0)]⟩,
  ⟨94, [(22, 934), (55, 628), (68, 0), (74, 628), (77, 0), (85, 628), (93, 924), (98, 628), (107, 0), (108, 628), (109, 628), (110, 628), (111, 628), (112, 628), (113, 628), (114, 628), (115, 628), (116, 628), (117, 628), (121, 0), (122, 0)]⟩,
  ⟨95, [(22, 937)]⟩, ⟨95, [(22, 0)]⟩,
  ⟨0, [(23, 226), (36, 227), (37, 227), (38, 227), (39, 227), (40, 228), (41, 228), (42, 229), (43, 230), (44, 231), (45, 231), (46, 232), (47, 232), (48, 233), (49, 234), (50, 232), (51, 235), (52, 235), (53, 235), (54, 583), (57, 237), (58, 243), (62, 590), (63, 590), (76, 221)]⟩,
  ⟨98, [(23, 199), (36, 200), (37, 200), (38, 200), (39, 200), (40, 201), (41, 201), (42, 202), (43, 203), (44, 204), (45, 204), (46, 205), (47, 205), (48, 206), (49, 207), (50, 205), (51, 208), (52, 208), (53, 208), (57, 215), (58, 209), (76, 239)]⟩,
  ⟨99, [(57, 214), (76, 0), (77, 157)]⟩, ⟨99, [(22, 508), (76, 0)]⟩,
  ⟨99, [(17, 554), (57, 137), (76, 0)]⟩, ⟨101, [(22, 22), (57, 223)]⟩, ⟨103, [(22, 25)]⟩,
  ⟨103, [(22, 28)]⟩, ⟨103, [(22, 29)]⟩, ⟨103, [(22, 34)]⟩, ⟨103, [(22, 37)]⟩, ⟨103, [(22, 38)]⟩,
  ⟨103, [(22, 44)]⟩, ⟨103, [(22, 52)]⟩, ⟨103, [(22, 55)]⟩, ⟨103, [(22, 58)]⟩, ⟨103, [(22, 59)]⟩,
  ⟨103, [(22, 64)]⟩, ⟨103, [(22, 67)]⟩, ⟨103, [(22, 68)]⟩, ⟨103, [(22, 74)]⟩, ⟨103, [(22, 82)]⟩,
  ⟨103, [(22, 85)]⟩, ⟨103, [(22, 88)]⟩, ⟨103, [(22, 89)]⟩, ⟨103, [(22, 94)]⟩, ⟨103, [(22, 97)]⟩,
  ⟨103, [(22, 98)]⟩, ⟨103, [(22, 104)]⟩, ⟨100, [(77, 186)]⟩]

def shiftMapsFrom128 : Array Revision := #[
  ⟨100, [(77, 190)]⟩, ⟨100, [(57, 0), (59, 212), (77, 263)]⟩, ⟨100, [(57, 0), (77, 261)]⟩,
  ⟨101, [(22, 110), (57, 0)]⟩, ⟨130, [(77, 267)]⟩, ⟨130, [(77, 268)]⟩, ⟨130, [(77, 270)]⟩,
  ⟨102, [(17, 1028), (57, 0)]⟩, ⟨129, [(59, 216), (77, 0)]⟩, ⟨130, [(66, 435), (77, 0)]⟩,
  ⟨137, [(66, 510)]⟩, ⟨130, [(77, 310)]⟩, ⟨130, [(77, 159)]⟩, ⟨130, [(77, 162)]⟩,
  ⟨137, [(66, 512)]⟩, ⟨130, [(77, 163)]⟩, ⟨130, [(77, 165)]⟩, ⟨131, [(22, 32)]⟩, ⟨131, [(22, 40)]⟩,
  ⟨135, [(17, 979)]⟩, ⟨136, [(59, 238)]⟩, ⟨137, [(66, 576)]⟩, ⟨131, [(22, 62)]⟩, ⟨131, [(22, 70)]⟩,
  ⟨131, [(22, 92)]⟩, ⟨131, [(22, 100)]⟩, ⟨130, [(77, 170)]⟩, ⟨130, [(77, 172)]⟩, ⟨130, [(77, 173)]⟩,
  ⟨130, [(77, 175)]⟩, ⟨130, [(77, 178)]⟩, ⟨130, [(77, 180)]⟩, ⟨130, [(77, 181)]⟩,
  ⟨130, [(77, 183)]⟩, ⟨130, [(77, 0)]⟩, ⟨98, [(57, 0), (76, 0)]⟩, ⟨162, [(43, 0), (58, 0)]⟩,
  ⟨163, [(43, 0), (58, 0)]⟩, ⟨164, [(42, 0)]⟩, ⟨165, [(42, 0)]⟩, ⟨166, [(48, 0)]⟩, ⟨167, [(48, 0)]⟩,
  ⟨97, [(1, 939), (17, 290), (57, 1103), (77, 410), (123, 0), (124, 0), (125, 0), (126, 0), (127, 0), (128, 0), (129, 0), (130, 0), (131, 0)]⟩,
  ⟨0, [(21, 148), (22, 1325), (24, 198), (25, 198), (26, 198), (27, 198), (28, 198), (29, 198), (30, 198), (31, 198), (32, 198), (33, 198), (34, 198), (35, 198), (37, 657), (56, 143), (57, 927), (67, 948)]⟩,
  ⟨0, [(1, 444), (55, 593), (84, 134), (93, 925), (94, 133), (95, 133), (104, 133), (116, 133), (120, 133), (123, 476), (124, 476), (125, 476), (126, 476), (127, 476), (128, 477), (129, 477), (130, 478), (131, 478)]⟩,
  ⟨168, [(49, 0)]⟩,
  ⟨172, [(1, 857), (22, 602), (55, 0), (75, 1264), (93, 0), (123, 721), (124, 721), (125, 721), (126, 721), (127, 721), (128, 722), (129, 722), (130, 764), (131, 764)]⟩,
  ⟨169, [(49, 0)]⟩, ⟨170, [(17, 341), (57, 0)]⟩, ⟨176, [(17, 361)]⟩,
  ⟨171, [(22, 0), (57, 0), (59, 18)]⟩, ⟨178, [(59, 48)]⟩, ⟨178, [(59, 78)]⟩, ⟨172, [(55, 0)]⟩,
  ⟨173, [(23, 0)]⟩, ⟨175, [(23, 0)]⟩, ⟨174, [(22, 0)]⟩, ⟨178, [(59, 0)]⟩,
  ⟨185, [(21, 129), (24, 225), (25, 225), (26, 225), (27, 225), (28, 225), (29, 225), (30, 225), (31, 225), (32, 225), (33, 225), (34, 225), (35, 225), (56, 146)]⟩,
  ⟨185, [(21, 129)]⟩, ⟨185, [(21, 132)]⟩, ⟨186, [(21, 148)]⟩, ⟨171, [(37, 0), (67, 0)]⟩,
  ⟨185, [(24, 136)]⟩]

def shiftMapsFrom192 : Array Revision := #[
  ⟨184, [(1, 828), (37, 933), (68, 1316), (75, 0), (84, 0), (94, 0), (95, 0), (104, 0), (107, 1317), (116, 0), (120, 1318), (121, 1319), (122, 1320)]⟩,
  ⟨192, [(1, 698)]⟩, ⟨176, [(17, 0), (77, 0)]⟩,
  ⟨0, [(55, 504), (74, 504), (85, 504), (93, 903), (98, 504), (108, 504), (109, 504), (110, 504), (111, 504), (112, 504), (113, 504), (114, 504), (115, 504), (116, 504), (117, 504)]⟩,
  ⟨182, [(40, 0), (41, 0)]⟩,
  ⟨0, [(55, 630), (74, 630), (85, 630), (93, 924), (98, 630), (108, 630), (109, 630), (110, 630), (111, 630), (112, 630), (113, 630), (114, 630), (115, 630), (116, 630), (117, 630)]⟩,
  ⟨183, [(40, 0), (41, 0)]⟩, ⟨193, [(37, 0)]⟩, ⟨185, [(37, 0), (67, 0)]⟩, ⟨186, [(37, 0), (67, 0)]⟩,
  ⟨200, [(21, 129)]⟩, ⟨201, [(21, 148)]⟩, ⟨200, [(21, 132)]⟩, ⟨200, [(24, 136)]⟩,
  ⟨199, [(68, 0), (93, 925), (94, 1324), (95, 906), (105, 908), (107, 0), (120, 0), (121, 0), (122, 0)]⟩,
  ⟨199, [(120, 0)]⟩, ⟨206, [(36, 505), (58, 988), (94, 0), (95, 0), (105, 0)]⟩, ⟨208, [(36, 459)]⟩,
  ⟨0, [(1, 883), (65, 1321), (67, 1322), (75, 859), (84, 407), (93, 924), (94, 406), (95, 406), (104, 406), (116, 406), (120, 406), (132, 833), (134, 1196)]⟩,
  ⟨0, [(1, 430), (11, 944), (12, 892), (37, 657), (64, 789), (84, 134), (94, 133), (95, 133), (104, 133), (116, 133), (120, 133), (134, 434), (135, 1328)]⟩,
  ⟨211, [(135, 1144)]⟩,
  ⟨211, [(1, 501), (84, 407), (94, 406), (95, 406), (104, 406), (116, 406), (120, 406), (134, 575), (135, 1377)]⟩,
  ⟨200, [(21, 0), (56, 0)]⟩, ⟨201, [(21, 0), (56, 0)]⟩, ⟨208, [(36, 0)]⟩, ⟨216, [(58, 994)]⟩,
  ⟨216, [(1, 846), (37, 657), (58, 0), (130, 870), (131, 870)]⟩,
  ⟨218, [(1, 848), (130, 872), (131, 872)]⟩, ⟨218, [(1, 1000), (130, 1240), (131, 1240)]⟩,
  ⟨210, [(67, 0)]⟩, ⟨218, [(1, 1007), (130, 1265), (131, 1265)]⟩,
  ⟨218, [(1, 851), (130, 881), (131, 881)]⟩, ⟨218, [(1, 853), (130, 882), (131, 882)]⟩,
  ⟨216, [(58, 0)]⟩, ⟨210, [(1, 860), (132, 0), (134, 0)]⟩, ⟨226, [(1, 859)]⟩, ⟨225, [(1, 856)]⟩,
  ⟨181, [(1, 457), (84, 0), (94, 0), (95, 0), (104, 0), (116, 0), (120, 0)]⟩,
  ⟨225, [(1, 989), (130, 1201), (131, 1201)]⟩, ⟨227, [(67, 0), (132, 838)]⟩,
  ⟨225, [(1, 995), (130, 1225), (131, 1225)]⟩, ⟨225, [(1, 997), (130, 1228), (131, 1228)]⟩,
  ⟨231, [(132, 833)]⟩, ⟨225, [(1, 1002), (130, 1252), (131, 1252)]⟩,
  ⟨196, [(36, 0), (37, 0), (38, 0), (39, 0), (54, 0)]⟩,
  ⟨198, [(36, 0), (37, 0), (38, 0), (39, 0), (54, 0)]⟩, ⟨226, [(67, 0)]⟩, ⟨227, [(67, 0)]⟩,
  ⟨238, [(1, 873)]⟩, ⟨238, [(1, 874)]⟩,
  ⟨226, [(1, 1126), (75, 0), (84, 134), (94, 133), (95, 133), (104, 133), (116, 133), (120, 133)]⟩,
  ⟨242, [(1, 1286)]⟩, ⟨225, [(93, 0)]⟩, ⟨211, [(11, 0), (12, 0), (64, 0)]⟩,
  ⟨213, [(11, 0), (12, 0), (64, 0)]⟩, ⟨242, [(1, 1212), (67, 0)]⟩, ⟨239, [(65, 0), (93, 925)]⟩,
  ⟨243, [(67, 0)]⟩, ⟨247, [(1, 1259), (65, 0), (93, 0), (97, 916), (98, 916)]⟩, ⟨250, [(1, 1282)]⟩,
  ⟨245, [(1, 431), (134, 436), (135, 0)]⟩, ⟨246, [(1, 502), (134, 578), (135, 0)]⟩,
  ⟨248, [(93, 0)]⟩, ⟨250, [(1, 1194), (97, 0), (98, 907)]⟩]

def shiftMapsFrom256 : Array Revision := #[
  ⟨255, [(1, 1239), (98, 0), (135, 1298)]⟩, ⟨255, [(1, 1073), (98, 0)]⟩, ⟨254, [(1, 599), (75, 0)]⟩,
  ⟨258, [(1, 601)]⟩, ⟨236, [(51, 0), (52, 0), (53, 0)]⟩, ⟨237, [(51, 0), (52, 0), (53, 0)]⟩,
  ⟨257, [(1, 487)]⟩, ⟨257, [(1, 1193)]⟩, ⟨257, [(1, 1085)]⟩, ⟨257, [(1, 1205)]⟩, ⟨257, [(1, 1214)]⟩,
  ⟨257, [(1, 1109)]⟩, ⟨257, [(1, 1119)]⟩, ⟨257, [(1, 1120)]⟩, ⟨257, [(1, 1260)]⟩,
  ⟨257, [(1, 1261)]⟩, ⟨257, [(1, 1357)]⟩, ⟨257, [(1, 1061)]⟩, ⟨257, [(1, 1062)]⟩,
  ⟨257, [(1, 1063)]⟩, ⟨257, [(1, 1152)]⟩, ⟨257, [(1, 1154)]⟩, ⟨258, [(1, 629)]⟩,
  ⟨0, [(1, 634), (84, 655), (94, 654), (95, 654), (104, 654), (116, 654), (120, 654)]⟩,
  ⟨257, [(1, 1215)]⟩, ⟨256, [(135, 0)]⟩, ⟨257, [(1, 1285)]⟩,
  ⟨0, [(17, 288), (96, 863), (99, 911), (101, 912), (102, 913), (103, 914)]⟩, ⟨283, [(17, 314)]⟩,
  ⟨0, [(12, 520), (14, 946), (15, 946), (16, 242), (18, 894), (19, 894)]⟩,
  ⟨285, [(12, 523), (18, 897), (19, 897)]⟩, ⟨260, [(44, 0), (45, 0)]⟩, ⟨261, [(44, 0), (45, 0)]⟩,
  ⟨0, [(21, 148), (37, 657), (65, 149), (67, 948), (93, 924)]⟩, ⟨289, [(67, 950)]⟩,
  ⟨283, [(17, 0)]⟩, ⟨0, [(37, 933), (70, 769), (72, 408), (118, 733), (119, 734)]⟩,
  ⟨286, [(12, 0)]⟩, ⟨289, [(56, 143), (65, 0), (93, 0)]⟩, ⟨294, [(56, 146)]⟩,
  ⟨294, [(21, 466), (56, 0), (72, 8)]⟩, ⟨0, [(1, 1332), (65, 1321), (93, 924), (134, 1220)]⟩,
  ⟨290, [(37, 0)]⟩, ⟨0, [(65, 1321), (74, 141), (77, 605), (93, 924)]⟩, ⟨299, [(77, 606)]⟩,
  ⟨292, [(70, 735), (72, 416), (118, 0)]⟩, ⟨292, [(37, 0)]⟩,
  ⟨0, [(11, 519), (13, 945), (16, 196), (19, 945)]⟩, ⟨303, [(11, 522), (13, 951), (19, 951)]⟩,
  ⟨0, [(21, 637), (37, 677), (67, 980)]⟩, ⟨0, [(65, 210), (67, 810), (69, 1018)]⟩,
  ⟨306, [(65, 244), (67, 817)]⟩, ⟨306, [(67, 816)]⟩, ⟨294, [(56, 0)]⟩,
  ⟨0, [(48, 843), (65, 1321), (93, 924)]⟩, ⟨296, [(72, 0)]⟩, ⟨309, [(21, 637)]⟩,
  ⟨310, [(21, 466), (48, 0)]⟩, ⟨298, [(67, 0)]⟩, ⟨313, [(21, 1360)]⟩, ⟨313, [(21, 1364)]⟩,
  ⟨310, [(48, 0), (67, 1219)]⟩, ⟨317, [(67, 1322)]⟩, ⟨0, [(17, 113), (73, 135), (74, 1233)]⟩]

def shiftMapsFrom320 : Array Revision := #[
  ⟨319, [(17, 114), (73, 142)]⟩, ⟨304, [(11, 0)]⟩, ⟨302, [(70, 0)]⟩, ⟨301, [(37, 0)]⟩,
  ⟨319, [(17, 114)]⟩, ⟨309, [(67, 950)]⟩, ⟨0, [(17, 316), (57, 707), (77, 410)]⟩,
  ⟨326, [(17, 341), (57, 710)]⟩, ⟨0, [(22, 211), (23, 767), (69, 1018)]⟩,
  ⟨0, [(1, 525), (37, 657), (64, 525)]⟩, ⟨0, [(21, 148), (67, 871), (69, 1018)]⟩,
  ⟨0, [(57, 922), (67, 1327), (77, 973)]⟩, ⟨331, [(77, 974)]⟩, ⟨331, [(57, 923), (77, 975)]⟩,
  ⟨328, [(22, 236)]⟩, ⟨0, [(67, 1327), (77, 967), (100, 918)]⟩, ⟨335, [(77, 968), (100, 919)]⟩,
  ⟨0, [(88, 1326), (89, 1204)]⟩, ⟨320, [(17, 0)]⟩, ⟨0, [(65, 1374), (93, 924)]⟩, ⟨339, [(65, 166)]⟩,
  ⟨0, [(21, 637), (67, 981)]⟩, ⟨305, [(21, 0)]⟩, ⟨342, [(67, 981)]⟩, ⟨339, [(65, 217)]⟩,
  ⟨0, [(21, 123), (67, 1327)]⟩, ⟨0, [(21, 148), (56, 143)]⟩, ⟨310, [(48, 0)]⟩, ⟨346, [(56, 146)]⟩,
  ⟨0, [(62, 590), (63, 590)]⟩, ⟨0, [(21, 126), (67, 1376)]⟩, ⟨0, [(21, 127), (67, 1381)]⟩,
  ⟨309, [(21, 0)]⟩, ⟨325, [(21, 0)]⟩, ⟨341, [(67, 950)]⟩, ⟨314, [(21, 0)]⟩,
  ⟨0, [(97, 916), (98, 916)]⟩, ⟨0, [(1, 1015), (93, 925)]⟩, ⟨0, [(21, 148), (72, 408)]⟩,
  ⟨357, [(1, 1021)]⟩, ⟨357, [(1, 700)]⟩, ⟨339, [(65, 1330)]⟩, ⟨357, [(1, 701)]⟩, ⟨339, [(65, 154)]⟩,
  ⟨357, [(1, 704)]⟩, ⟨357, [(1, 705)]⟩, ⟨339, [(65, 220)]⟩, ⟨319, [(17, 0)]⟩,
  ⟨0, [(57, 237), (76, 221)]⟩, ⟨357, [(1, 469)]⟩, ⟨357, [(1, 471)]⟩, ⟨357, [(1, 472)]⟩,
  ⟨357, [(1, 474)]⟩, ⟨339, [(65, 1379)]⟩, ⟨339, [(65, 167)]⟩, ⟨0, [(70, 771), (135, 771)]⟩,
  ⟨0, [(57, 215), (76, 239)]⟩, ⟨0, [(21, 254), (72, 13)]⟩, ⟨0, [(72, 659), (118, 733)]⟩,
  ⟨0, [(21, 466), (37, 933)]⟩, ⟨322, [(118, 0)]⟩, ⟨322, [(119, 0)]⟩, ⟨323, [(70, 0)]⟩,
  ⟨0, [(72, 5), (133, 770)]⟩]

def shiftMapsFrom384 : Array Revision := #[
  ⟨0, [(24, 144), (59, 219)]⟩, ⟨384, [(59, 224)]⟩, ⟨384, [(59, 245)]⟩, ⟨384, [(59, 246)]⟩,
  ⟨384, [(59, 247)]⟩, ⟨384, [(59, 248)]⟩, ⟨0, [(72, 8), (77, 390)]⟩, ⟨0, [(22, 935), (57, 483)]⟩,
  ⟨0, [(36, 834), (57, 936)]⟩, ⟨0, [(67, 1327), (72, 862)]⟩, ⟨390, [(77, 393)]⟩,
  ⟨0, [(22, 1331), (57, 927)]⟩, ⟨0, [(22, 404), (23, 767)]⟩, ⟨0, [(1, 1332), (134, 1220)]⟩,
  ⟨391, [(22, 937)]⟩, ⟨392, [(36, 840)]⟩, ⟨0, [(36, 507), (57, 702)]⟩, ⟨325, [(37, 0)]⟩,
  ⟨0, [(22, 1336), (77, 249)]⟩, ⟨0, [(1, 468), (46, 1339)]⟩, ⟨391, [(22, 940)]⟩,
  ⟨397, [(134, 1248)]⟩, ⟨400, [(36, 509)]⟩, ⟨0, [(22, 1347), (77, 250)]⟩,
  ⟨0, [(57, 214), (77, 161)]⟩, ⟨0, [(22, 552), (57, 915)]⟩, ⟨326, [(57, 0)]⟩,
  ⟨0, [(22, 511), (57, 215)]⟩, ⟨391, [(22, 943)]⟩, ⟨0, [(17, 554), (57, 137)]⟩,
  ⟨0, [(17, 1057), (57, 130)]⟩, ⟨409, [(22, 564)]⟩, ⟨0, [(22, 603), (57, 668)]⟩,
  ⟨0, [(17, 566), (57, 138)]⟩, ⟨0, [(22, 27), (57, 223)]⟩, ⟨418, [(22, 33)]⟩,
  ⟨0, [(17, 1060), (57, 131)]⟩, ⟨416, [(22, 604)]⟩, ⟨418, [(22, 35)]⟩, ⟨418, [(22, 36)]⟩,
  ⟨418, [(22, 41)]⟩, ⟨401, [(67, 886)]⟩, ⟨418, [(22, 42)]⟩, ⟨418, [(22, 43)]⟩,
  ⟨0, [(57, 922), (77, 976)]⟩, ⟨428, [(77, 977)]⟩, ⟨0, [(57, 923), (77, 978)]⟩,
  ⟨0, [(74, 141), (77, 607)]⟩, ⟨418, [(22, 45)]⟩, ⟨431, [(77, 609)]⟩, ⟨400, [(36, 461)]⟩,
  ⟨400, [(36, 463)]⟩, ⟨409, [(22, 674)]⟩, ⟨409, [(22, 675)]⟩, ⟨409, [(22, 719)]⟩,
  ⟨409, [(22, 720)]⟩, ⟨396, [(22, 405)]⟩, ⟨418, [(22, 57)]⟩, ⟨418, [(22, 63)]⟩, ⟨418, [(22, 65)]⟩,
  ⟨418, [(22, 66)]⟩, ⟨418, [(22, 71)]⟩, ⟨418, [(22, 72)]⟩, ⟨418, [(22, 73)]⟩]

def shiftMapsFrom448 : Array Revision := #[
  ⟨418, [(22, 75)]⟩, ⟨418, [(22, 87)]⟩, ⟨418, [(22, 93)]⟩, ⟨418, [(22, 95)]⟩, ⟨418, [(22, 96)]⟩,
  ⟨418, [(22, 101)]⟩, ⟨418, [(22, 102)]⟩, ⟨418, [(22, 103)]⟩, ⟨418, [(22, 105)]⟩,
  ⟨408, [(77, 187)]⟩, ⟨408, [(77, 191)]⟩, ⟨0, [(1, 1314), (77, 258)]⟩, ⟨0, [(1, 1315), (77, 259)]⟩,
  ⟨330, [(21, 0)]⟩, ⟨391, [(57, 480)]⟩, ⟨0, [(67, 1327), (77, 273)]⟩, ⟨0, [(67, 1086), (77, 274)]⟩,
  ⟨0, [(67, 1102), (77, 289)]⟩, ⟨0, [(1, 538), (64, 538)]⟩, ⟨463, [(77, 303)]⟩,
  ⟨0, [(56, 125), (59, 396)]⟩, ⟨463, [(77, 966)]⟩, ⟨463, [(77, 969)]⟩,
  ⟨0, [(67, 1327), (104, 920)]⟩, ⟨0, [(134, 1293), (135, 1293)]⟩, ⟨463, [(77, 970)]⟩,
  ⟨463, [(77, 971)]⟩, ⟨463, [(77, 972)]⟩, ⟨461, [(67, 875)]⟩, ⟨0, [(88, 1326)]⟩, ⟨0, [(91, 19)]⟩,
  ⟨0, [(91, 49)]⟩, ⟨0, [(21, 148)]⟩, ⟨0, [(95, 906)]⟩, ⟨0, [(1, 1017)]⟩, ⟨0, [(67, 981)]⟩,
  ⟨0, [(72, 408)]⟩, ⟨0, [(21, 197)]⟩, ⟨0, [(72, 8)]⟩, ⟨0, [(93, 925)]⟩, ⟨0, [(67, 950)]⟩,
  ⟨0, [(48, 843)]⟩, ⟨0, [(93, 924)]⟩, ⟨0, [(57, 215)]⟩, ⟨0, [(57, 773)]⟩, ⟨0, [(57, 237)]⟩,
  ⟨0, [(70, 768)]⟩, ⟨0, [(24, 144)]⟩, ⟨0, [(133, 770)]⟩, ⟨0, [(23, 772)]⟩, ⟨0, [(76, 221)]⟩,
  ⟨0, [(57, 778)]⟩, ⟨0, [(57, 885)]⟩, ⟨0, [(57, 927)]⟩, ⟨0, [(23, 767)]⟩, ⟨0, [(1, 1332)]⟩,
  ⟨0, [(57, 483)]⟩, ⟨0, [(57, 936)]⟩, ⟨0, [(57, 702)]⟩, ⟨0, [(77, 255)]⟩, ⟨0, [(57, 214)]⟩,
  ⟨0, [(57, 915)]⟩, ⟨0, [(57, 145)]⟩, ⟨0, [(57, 223)]⟩]

def shiftMapsFrom512 : Array Revision := #[
  ⟨0, [(57, 140)]⟩, ⟨0, [(57, 668)]⟩, ⟨0, [(67, 1327)]⟩, ⟨0, [(57, 922)]⟩, ⟨0, [(57, 923)]⟩,
  ⟨0, [(76, 239)]⟩, ⟨0, [(72, 909)]⟩, ⟨0, [(72, 13)]⟩, ⟨0, [(72, 426)]⟩, ⟨0, [(72, 128)]⟩,
  ⟨0, [(72, 659)]⟩, ⟨0, [(21, 466)]⟩, ⟨0, [(72, 416)]⟩, ⟨0, [(21, 637)]⟩, ⟨0, [(72, 5)]⟩,
  ⟨0, [(91, 79)]⟩, ⟨0, [(1, 896)]⟩, ⟨0, [(21, 118)]⟩, ⟨0, [(1, 1016)]⟩, ⟨0, [(1, 1195)]⟩,
  ⟨0, [(1, 926)]⟩, ⟨0, [(56, 143)]⟩, ⟨0, [(69, 1018)]⟩, ⟨0, [(80, 1203)]⟩, ⟨0, [(77, 265)]⟩,
  ⟨0, [(77, 266)]⟩, ⟨0, [(1, 898)]⟩, ⟨0, [(1, 1025)]⟩, ⟨0, [(1, 1026)]⟩, ⟨0, [(1, 1211)]⟩,
  ⟨0, [(1, 930)]⟩, ⟨0, [(66, 635)]⟩, ⟨0, [(68, 528)]⟩, ⟨0, [(77, 279)]⟩, ⟨0, [(95, 910)]⟩,
  ⟨0, [(21, 484)]⟩, ⟨0, [(1, 468)]⟩, ⟨0, [(67, 886)]⟩, ⟨0, [(77, 302)]⟩, ⟨0, [(66, 638)]⟩,
  ⟨0, [(67, 1219)]⟩, ⟨0, [(77, 311)]⟩, ⟨0, [(24, 218)]⟩, ⟨0, [(22, 552)]⟩, ⟨0, [(77, 315)]⟩,
  ⟨0, [(17, 316)]⟩, ⟨0, [(1, 942)]⟩, ⟨0, [(17, 554)]⟩, ⟨0, [(77, 563)]⟩, ⟨0, [(59, 396)]⟩,
  ⟨0, [(56, 125)]⟩, ⟨0, [(24, 222)]⟩, ⟨0, [(22, 1279)]⟩, ⟨0, [(17, 1057)]⟩, ⟨0, [(77, 340)]⟩,
  ⟨0, [(17, 341)]⟩, ⟨0, [(77, 581)]⟩, ⟨0, [(77, 570)]⟩, ⟨0, [(24, 139)]⟩, ⟨0, [(17, 361)]⟩,
  ⟨0, [(77, 582)]⟩, ⟨0, [(22, 889)]⟩, ⟨0, [(77, 397)]⟩, ⟨0, [(17, 376)]⟩]

def shiftMapsFrom576 : Array Revision := #[
  ⟨0, [(22, 890)]⟩, ⟨0, [(77, 398)]⟩, ⟨0, [(77, 608)]⟩, ⟨0, [(77, 399)]⟩, ⟨0, [(77, 610)]⟩,
  ⟨0, [(77, 611)]⟩, ⟨0, [(77, 400)]⟩, ⟨0, [(77, 612)]⟩, ⟨0, [(56, 146)]⟩, ⟨0, [(66, 460)]⟩,
  ⟨0, [(77, 470)]⟩, ⟨0, [(1, 631)]⟩, ⟨0, [(67, 891)]⟩, ⟨0, [(77, 473)]⟩, ⟨0, [(66, 462)]⟩,
  ⟨0, [(22, 674)]⟩, ⟨0, [(1, 656)]⟩, ⟨0, [(22, 719)]⟩, ⟨0, [(21, 119)]⟩, ⟨0, [(21, 120)]⟩]

/-- The maps from tokens to states. -/
def shiftMaps : Chunks Revision :=
  ⟨#[
    shiftMapsFrom0, shiftMapsFrom64, shiftMapsFrom128, shiftMapsFrom192, shiftMapsFrom256,
    shiftMapsFrom320, shiftMapsFrom384, shiftMapsFrom448, shiftMapsFrom512, shiftMapsFrom576]⟩

end Testsmith.Java
