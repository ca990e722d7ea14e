/-
# Where constructs lead

The maps from constructs to states that the rows refer to. Each is the map of an earlier index with
some pairs changed; the state 0 takes a construct out of it.

Key definition: `gotoMaps`.
-/
import Testsmith.Parsing.Automaton

namespace Testsmith.Java

open Parsing

def gotoMapsFrom0 : Array Revision := #[
  ⟨0, []⟩,
  ⟨0, [(0, 1310), (1, 2), (2, 514), (3, 513), (4, 515), (5, 515), (9, 723), (10, 587), (11, 587), (12, 587), (13, 587), (14, 587), (15, 1311), (16, 587), (17, 587), (18, 587), (19, 516), (20, 514), (22, 514), (23, 514), (24, 514), (25, 517), (26, 440), (27, 514), (28, 440), (29, 514), (31, 514), (36, 122), (47, 2), (48, 256), (49, 256), (50, 256), (51, 256), (52, 256), (53, 256), (54, 256), (55, 256), (56, 256), (57, 256), (58, 256), (59, 256), (64, 256), (67, 256), (68, 256), (69, 256), (70, 256), (71, 518), (72, 518), (73, 518), (78, 256), (79, 257), (88, 257), (89, 257), (91, 257), (95, 257), (96, 724), (97, 782), (112, 257), (113, 257), (117, 257), (125, 1312), (126, 765), (127, 905), (128, 818), (129, 831), (130, 764), (131, 764), (132, 764), (133, 1070), (135, 1311), (140, 256), (141, 2), (143, 429), (144, 2), (149, 725), (172, 503)]⟩,
  ⟨1, [(0, 0), (1, 3), (47, 3), (141, 3), (144, 3)]⟩,
  ⟨2, [(1, 0), (36, 121), (40, 1345), (47, 7), (96, 786), (97, 0), (126, 775), (133, 0), (141, 0), (144, 0), (156, 389), (157, 7)]⟩,
  ⟨3, [(19, 640), (32, 1276), (40, 0), (47, 11), (109, 10), (156, 0), (157, 11)]⟩,
  ⟨3, [(40, 0), (47, 6), (156, 0), (157, 6)]⟩, ⟨5, [(47, 9), (157, 9)]⟩, ⟨5, [(47, 12), (157, 12)]⟩,
  ⟨5, [(47, 14), (157, 14)]⟩, ⟨5, [(36, 676), (47, 1313), (157, 0)]⟩, ⟨9, [(36, 122), (47, 264)]⟩,
  ⟨10, [(47, 392)]⟩, ⟨10, [(47, 278)]⟩, ⟨10, [(47, 313)]⟩, ⟨10, [(47, 338)]⟩, ⟨10, [(47, 339)]⟩,
  ⟨10, [(47, 356)]⟩, ⟨10, [(47, 357)]⟩, ⟨10, [(47, 358)]⟩, ⟨10, [(47, 359)]⟩, ⟨10, [(47, 360)]⟩,
  ⟨10, [(47, 368)]⟩, ⟨10, [(47, 369)]⟩, ⟨10, [(47, 370)]⟩, ⟨10, [(47, 371)]⟩, ⟨10, [(47, 372)]⟩,
  ⟨10, [(47, 373)]⟩, ⟨10, [(47, 374)]⟩, ⟨10, [(47, 375)]⟩, ⟨10, [(47, 378)]⟩, ⟨10, [(47, 379)]⟩,
  ⟨10, [(47, 380)]⟩, ⟨10, [(47, 381)]⟩, ⟨10, [(47, 382)]⟩, ⟨10, [(47, 383)]⟩, ⟨10, [(47, 384)]⟩,
  ⟨10, [(47, 385)]⟩, ⟨10, [(47, 386)]⟩, ⟨10, [(47, 387)]⟩, ⟨10, [(47, 388)]⟩, ⟨10, [(36, 121)]⟩,
  ⟨40, [(47, 395)]⟩, ⟨12, [(36, 121)]⟩, ⟨13, [(36, 121)]⟩, ⟨14, [(36, 121)]⟩, ⟨15, [(36, 121)]⟩,
  ⟨16, [(36, 121)]⟩, ⟨17, [(36, 121)]⟩, ⟨18, [(36, 121)]⟩, ⟨19, [(36, 121)]⟩, ⟨20, [(36, 121)]⟩,
  ⟨21, [(36, 121)]⟩, ⟨22, [(36, 121)]⟩, ⟨23, [(36, 121)]⟩, ⟨24, [(36, 121)]⟩, ⟨25, [(36, 121)]⟩,
  ⟨26, [(36, 121)]⟩, ⟨27, [(36, 121)]⟩, ⟨28, [(36, 121)]⟩, ⟨29, [(36, 121)]⟩, ⟨30, [(36, 121)]⟩,
  ⟨31, [(36, 121)]⟩, ⟨32, [(36, 121)]⟩, ⟨33, [(36, 121)]⟩]

def gotoMapsFrom64 : Array Revision := #[
  ⟨34, [(36, 121)]⟩, ⟨35, [(36, 121)]⟩, ⟨36, [(36, 121)]⟩, ⟨37, [(36, 121)]⟩, ⟨38, [(36, 121)]⟩,
  ⟨39, [(36, 121)]⟩, ⟨9, [(47, 264)]⟩, ⟨9, [(47, 1304)]⟩, ⟨9, [(47, 278)]⟩, ⟨9, [(47, 313)]⟩,
  ⟨9, [(47, 338)]⟩, ⟨9, [(47, 339)]⟩, ⟨9, [(47, 356)]⟩, ⟨9, [(47, 357)]⟩, ⟨9, [(47, 358)]⟩,
  ⟨9, [(47, 359)]⟩, ⟨9, [(47, 360)]⟩, ⟨9, [(47, 368)]⟩, ⟨9, [(47, 369)]⟩, ⟨9, [(47, 370)]⟩,
  ⟨9, [(47, 371)]⟩, ⟨9, [(47, 372)]⟩, ⟨9, [(47, 373)]⟩, ⟨9, [(47, 374)]⟩, ⟨9, [(47, 375)]⟩,
  ⟨9, [(47, 378)]⟩, ⟨9, [(47, 379)]⟩, ⟨9, [(47, 380)]⟩, ⟨9, [(47, 381)]⟩, ⟨9, [(47, 382)]⟩,
  ⟨9, [(47, 383)]⟩, ⟨9, [(47, 384)]⟩, ⟨9, [(47, 385)]⟩, ⟨9, [(47, 386)]⟩, ⟨9, [(47, 387)]⟩,
  ⟨9, [(47, 388)]⟩,
  ⟨9, [(9, 726), (36, 587), (47, 0), (48, 0), (49, 0), (50, 0), (51, 0), (52, 0), (53, 0), (54, 0), (55, 0), (56, 0), (57, 0), (58, 0), (59, 0), (64, 0), (67, 0), (68, 0), (69, 0), (70, 0), (71, 715), (72, 715), (73, 715), (78, 0), (79, 0), (88, 0), (89, 0), (91, 0), (95, 0), (96, 832), (112, 0), (113, 0), (117, 0), (125, 1014), (126, 696), (136, 1071), (137, 1189), (138, 1071), (140, 0), (143, 443), (149, 783), (172, 628)]⟩,
  ⟨100, [(125, 1312)]⟩, ⟨100, [(125, 1065)]⟩,
  ⟨101, [(9, 658), (96, 837), (126, 777), (136, 0), (137, 0), (138, 0), (140, 153), (143, 429), (149, 784)]⟩,
  ⟨103, [(9, 694), (96, 844), (126, 779), (140, 185)]⟩,
  ⟨103, [(9, 695), (96, 845), (126, 780), (140, 189)]⟩,
  ⟨103, [(9, 636), (71, 850), (72, 850), (73, 850), (75, 1101), (76, 1338), (77, 1338), (96, 0), (126, 895), (140, 0), (143, 455), (172, 0)]⟩,
  ⟨103, [(9, 723), (48, 1127), (49, 1127), (58, 1127), (71, 784), (72, 784), (73, 784), (96, 0), (126, 895), (140, 0), (172, 0)]⟩,
  ⟨106, [(75, 1159), (76, 1380), (77, 1380)]⟩, ⟨106, [(75, 1162), (76, 1382), (77, 1382)]⟩,
  ⟨107, [(9, 626), (15, 1373), (26, 465), (28, 465), (41, 1046), (42, 1114), (43, 1114), (48, 0), (49, 0), (58, 0), (126, 821), (129, 867), (135, 1373), (143, 441)]⟩,
  ⟨110, [(9, 632), (15, 1311), (26, 440), (28, 440), (41, 1160), (135, 1311), (143, 442)]⟩,
  ⟨106, [(75, 0), (76, 1117), (77, 1117), (143, 429)]⟩,
  ⟨111, [(9, 660), (41, 0), (42, 0), (43, 1122), (45, 1122), (126, 823), (143, 447)]⟩,
  ⟨112, [(76, 1295), (77, 1295)]⟩, ⟨112, [(9, 709), (76, 1280), (77, 1280)]⟩, ⟨115, [(9, 636)]⟩,
  ⟨112, [(76, 1369), (77, 1369)]⟩, ⟨107, [(9, 662), (48, 0), (49, 0), (58, 0), (124, 1112)]⟩,
  ⟨118, [(9, 711), (124, 1292)]⟩, ⟨118, [(9, 614), (48, 591), (124, 0)]⟩,
  ⟨118, [(9, 661), (124, 1108)]⟩,
  ⟨120, [(9, 642), (15, 1373), (26, 465), (28, 465), (135, 1373), (143, 446)]⟩,
  ⟨118, [(9, 728), (124, 0)]⟩, ⟨123, [(9, 727)]⟩, ⟨123, [(9, 660)]⟩, ⟨123, [(9, 738)]⟩,
  ⟨123, [(9, 740)]⟩]

def gotoMapsFrom128 : Array Revision := #[
  ⟨123, [(9, 741)]⟩, ⟨123, [(9, 743)]⟩, ⟨123, [(9, 663)]⟩, ⟨123, [(9, 744)]⟩, ⟨123, [(9, 664)]⟩,
  ⟨123, [(9, 665)]⟩, ⟨123, [(9, 666)]⟩, ⟨123, [(9, 745)]⟩, ⟨123, [(9, 667)]⟩, ⟨123, [(9, 669)]⟩,
  ⟨123, [(9, 670)]⟩, ⟨123, [(9, 671)]⟩, ⟨123, [(9, 678)]⟩, ⟨123, [(9, 679)]⟩, ⟨123, [(9, 680)]⟩,
  ⟨123, [(9, 681)]⟩, ⟨123, [(9, 682)]⟩, ⟨123, [(9, 683)]⟩, ⟨123, [(9, 684)]⟩, ⟨123, [(9, 685)]⟩,
  ⟨123, [(9, 686)]⟩, ⟨123, [(9, 687)]⟩, ⟨123, [(9, 688)]⟩, ⟨123, [(9, 689)]⟩, ⟨123, [(9, 690)]⟩,
  ⟨123, [(9, 691)]⟩, ⟨123, [(9, 692)]⟩, ⟨123, [(9, 693)]⟩, ⟨123, [(9, 756)]⟩, ⟨123, [(9, 757)]⟩,
  ⟨123, [(9, 758)]⟩, ⟨123, [(9, 759)]⟩, ⟨123, [(9, 760)]⟩, ⟨123, [(9, 761)]⟩, ⟨123, [(9, 762)]⟩,
  ⟨123, [(9, 763)]⟩, ⟨123, [(9, 588)]⟩, ⟨123, [(9, 589)]⟩, ⟨123, [(9, 697)]⟩, ⟨123, [(9, 729)]⟩,
  ⟨123, [(9, 732)]⟩, ⟨123, [(9, 726)]⟩, ⟨123, [(9, 613)]⟩, ⟨123, [(9, 615)]⟩, ⟨123, [(9, 616)]⟩,
  ⟨123, [(9, 617)]⟩, ⟨123, [(9, 618)]⟩, ⟨123, [(9, 619)]⟩, ⟨123, [(9, 620)]⟩, ⟨123, [(9, 592)]⟩,
  ⟨123, [(9, 621)]⟩, ⟨123, [(9, 622)]⟩, ⟨123, [(9, 623)]⟩, ⟨123, [(9, 736)]⟩, ⟨123, [(9, 737)]⟩,
  ⟨123, [(9, 595), (14, 596), (19, 529)]⟩, ⟨123, [(9, 739)]⟩, ⟨123, [(9, 706)]⟩, ⟨123, [(9, 639)]⟩,
  ⟨123, [(9, 624)]⟩, ⟨123, [(9, 708)]⟩, ⟨123, [(9, 746)]⟩, ⟨122, [(9, 712), (48, 0)]⟩,
  ⟨123, [(9, 713)]⟩]

def gotoMapsFrom192 : Array Revision := #[
  ⟨123, [(9, 714)]⟩, ⟨123, [(9, 747)]⟩, ⟨190, [(9, 641)]⟩, ⟨190, [(9, 643)]⟩, ⟨190, [(9, 644)]⟩,
  ⟨190, [(9, 645)]⟩, ⟨190, [(9, 646)]⟩, ⟨190, [(9, 647)]⟩, ⟨190, [(9, 648)]⟩, ⟨190, [(9, 592)]⟩,
  ⟨190, [(9, 649)]⟩, ⟨190, [(9, 650)]⟩, ⟨190, [(9, 651)]⟩, ⟨190, [(9, 595), (14, 596), (19, 529)]⟩,
  ⟨190, [(9, 652)]⟩, ⟨190, [(9, 653)]⟩, ⟨123, [(9, 748)]⟩, ⟨190, [(9, 588)]⟩, ⟨190, [(9, 589)]⟩,
  ⟨123, [(9, 749)]⟩, ⟨123, [(9, 750)]⟩, ⟨123, [(9, 751)]⟩, ⟨123, [(9, 752)]⟩, ⟨123, [(9, 753)]⟩,
  ⟨123, [(9, 754)]⟩, ⟨123, [(9, 755)]⟩,
  ⟨103, [(9, 0), (10, 0), (11, 0), (12, 0), (13, 0), (14, 0), (15, 0), (16, 0), (17, 0), (18, 0), (19, 1083), (26, 991), (28, 514), (36, 0), (66, 1258), (96, 836), (126, 802), (135, 0), (140, 0), (143, 992)]⟩,
  ⟨218, [(66, 1084)]⟩,
  ⟨218, [(14, 600), (15, 1311), (19, 539), (26, 514), (66, 0), (71, 784), (72, 784), (73, 784), (96, 0), (126, 895), (135, 1311), (143, 494), (172, 0)]⟩,
  ⟨220, [(15, 1373), (135, 1373), (143, 586)]⟩,
  ⟨0, [(48, 409), (71, 503), (72, 503), (73, 503), (91, 409), (95, 409), (96, 703), (97, 790), (105, 409), (106, 409), (107, 1030), (111, 409), (112, 409), (113, 409), (117, 409), (126, 791), (128, 716), (129, 774), (130, 764), (131, 764), (132, 764), (133, 1070), (141, 409), (142, 409), (171, 409), (172, 503)]⟩,
  ⟨222, [(48, 411), (91, 411), (95, 411), (105, 411), (106, 411), (111, 411), (112, 411), (113, 411), (117, 411), (141, 411), (142, 411), (171, 411)]⟩,
  ⟨222, [(48, 412), (91, 412), (95, 412), (105, 412), (106, 412), (111, 412), (112, 412), (113, 412), (117, 412), (141, 412), (142, 412), (171, 412)]⟩,
  ⟨222, [(48, 0), (91, 417), (95, 417), (96, 742), (97, 782), (105, 0), (106, 0), (107, 0), (111, 0), (112, 417), (113, 417), (117, 417), (120, 417), (126, 794), (141, 417), (142, 0), (171, 0), (177, 417)]⟩,
  ⟨225, [(91, 419), (95, 419), (112, 419), (113, 419), (117, 419), (120, 419), (141, 419), (177, 419)]⟩,
  ⟨225, [(91, 427), (95, 427), (96, 804), (97, 0), (112, 0), (113, 427), (115, 427), (117, 427), (120, 427), (126, 805), (133, 0), (141, 0), (176, 427), (177, 0)]⟩,
  ⟨227, [(91, 428), (95, 428), (113, 428), (115, 428), (117, 428), (120, 428), (176, 428)]⟩,
  ⟨0, [(71, 715), (72, 715), (73, 715), (96, 832), (126, 792), (128, 716), (129, 774), (130, 764), (131, 764), (132, 764), (136, 1071), (137, 1189), (138, 1071), (149, 793), (172, 628)]⟩,
  ⟨0, [(43, 594), (71, 798), (72, 798), (73, 798), (125, 481), (126, 439), (127, 486), (128, 464), (129, 450), (130, 478), (131, 478), (132, 478), (143, 1210), (149, 798)]⟩,
  ⟨230, [(43, 597), (125, 482)]⟩,
  ⟨229, [(71, 628), (72, 628), (73, 628), (126, 814), (136, 1092), (137, 0), (138, 1092), (149, 0)]⟩,
  ⟨232, [(136, 1221), (138, 1221)]⟩,
  ⟨232, [(61, 1349), (62, 899), (96, 829), (126, 822), (136, 0), (138, 0)]⟩,
  ⟨232, [(33, 1081), (71, 776), (72, 776), (73, 776), (96, 0), (125, 1081), (126, 835), (127, 905), (136, 0), (138, 0), (149, 776), (172, 0)]⟩,
  ⟨235, [(33, 1157), (125, 1157)]⟩, ⟨235, [(33, 1250), (125, 1250)]⟩,
  ⟨235, [(33, 0), (71, 784), (72, 784), (73, 784), (102, 1229), (125, 1031), (149, 784)]⟩,
  ⟨238, [(102, 1334)]⟩, ⟨238, [(102, 1236)]⟩, ⟨238, [(102, 0), (125, 1217)]⟩, ⟨241, [(125, 1029)]⟩,
  ⟨241, [(125, 1098)]⟩, ⟨241, [(125, 1041)]⟩, ⟨241, [(125, 1249)]⟩, ⟨241, [(125, 1124)]⟩,
  ⟨241, [(125, 1056)]⟩,
  ⟨0, [(35, 766), (71, 949), (72, 949), (73, 949), (121, 1323), (122, 1075), (123, 1019), (134, 1020), (143, 860), (149, 949), (153, 584)]⟩,
  ⟨248, [(121, 1329)]⟩, ⟨248, [(121, 1344)]⟩, ⟨248, [(121, 1353)]⟩, ⟨248, [(121, 1354)]⟩,
  ⟨248, [(121, 1359)]⟩,
  ⟨241, [(71, 699), (72, 699), (73, 699), (125, 0), (126, 825), (127, 0), (149, 699)]⟩,
  ⟨248, [(134, 0), (143, 859)]⟩]

def gotoMapsFrom256 : Array Revision := #[
  ⟨255, [(121, 1375), (123, 1034)]⟩, ⟨256, [(123, 1066)]⟩, ⟨256, [(123, 1068)]⟩,
  ⟨254, [(71, 788), (72, 788), (73, 788), (126, 824), (149, 788)]⟩, ⟨254, [(126, 855)]⟩,
  ⟨254, [(126, 826)]⟩, ⟨254, [(126, 887)]⟩,
  ⟨254, [(126, 438), (128, 464), (129, 475), (130, 478), (131, 478), (132, 478)]⟩,
  ⟨255, [(121, 1329)]⟩, ⟨255, [(121, 1378), (123, 1047)]⟩, ⟨251, [(134, 0), (143, 873)]⟩,
  ⟨253, [(134, 0), (143, 874)]⟩, ⟨265, [(123, 1067)]⟩, ⟨265, [(123, 1069)]⟩,
  ⟨0, [(21, 449), (30, 489), (32, 730), (35, 1200), (71, 952), (72, 952), (73, 952), (149, 952), (150, 449), (153, 584)]⟩,
  ⟨270, [(21, 448), (30, 488), (32, 731), (35, 1199), (150, 448)]⟩,
  ⟨270, [(21, 452), (30, 493), (35, 1227), (150, 452)]⟩,
  ⟨271, [(21, 451), (30, 492), (35, 1226), (150, 451)]⟩, ⟨270, [(21, 877), (150, 877)]⟩,
  ⟨271, [(21, 876), (150, 876)]⟩, ⟨272, [(21, 880), (150, 880)]⟩, ⟨273, [(21, 879), (150, 879)]⟩,
  ⟨0, [(43, 1122), (45, 1122), (126, 842), (128, 716), (129, 878), (130, 764), (131, 764), (132, 764), (143, 1210)]⟩,
  ⟨278, [(43, 1296), (45, 1296)]⟩, ⟨255, [(121, 0), (122, 0), (123, 1197), (181, 1078)]⟩,
  ⟨254, [(71, 0), (72, 0), (73, 0), (97, 790), (107, 1043), (126, 796), (133, 1074), (149, 0)]⟩,
  ⟨0, [(32, 809), (71, 785), (72, 785), (73, 785), (128, 847), (129, 858), (131, 870), (132, 870), (149, 785)]⟩,
  ⟨254, [(32, 813), (126, 0), (128, 849), (129, 861), (130, 0), (131, 872), (132, 872)]⟩,
  ⟨282, [(71, 795), (72, 795), (73, 795), (128, 1001), (129, 1105), (131, 1240), (132, 1240), (149, 795)]⟩,
  ⟨283, [(128, 1008), (129, 1123), (131, 1265), (132, 1265)]⟩,
  ⟨282, [(71, 800), (72, 800), (73, 800), (128, 852), (129, 868), (131, 881), (132, 881), (149, 800)]⟩,
  ⟨283, [(128, 854), (129, 869), (131, 882), (132, 882)]⟩, ⟨271, [(32, 0)]⟩, ⟨273, [(32, 0)]⟩,
  ⟨275, [(32, 0)]⟩, ⟨277, [(32, 0)]⟩,
  ⟨0, [(21, 467), (35, 532), (71, 986), (72, 986), (73, 986), (149, 986), (150, 467), (153, 432)]⟩,
  ⟨292, [(35, 535)]⟩, ⟨292, [(35, 545)]⟩, ⟨292, [(35, 548)]⟩,
  ⟨281, [(97, 782), (107, 0), (126, 787)]⟩, ⟨296, [(126, 797)]⟩, ⟨280, [(123, 1337), (181, 0)]⟩,
  ⟨0, [(71, 812), (72, 812), (73, 812), (128, 990), (129, 1082), (131, 1201), (132, 1201), (149, 812)]⟩,
  ⟨298, [(123, 1216)]⟩, ⟨283, [(32, 0), (128, 996), (129, 1096), (131, 1225), (132, 1225)]⟩,
  ⟨0, [(71, 815), (72, 815), (73, 815), (128, 998), (129, 1097), (131, 1228), (132, 1228), (149, 815)]⟩,
  ⟨280, [(181, 0)]⟩, ⟨301, [(128, 1003), (129, 1113), (131, 1252), (132, 1252)]⟩,
  ⟨298, [(123, 1348)]⟩, ⟨298, [(123, 0), (134, 1027), (143, 1212)]⟩, ⟨306, [(134, 1040)]⟩,
  ⟨288, [(21, 467), (30, 0), (35, 532), (150, 467)]⟩, ⟨308, [(35, 535)]⟩, ⟨308, [(35, 545)]⟩,
  ⟨308, [(35, 548)]⟩,
  ⟨0, [(71, 628), (72, 628), (73, 628), (93, 1341), (94, 999), (96, 1342), (172, 628)]⟩,
  ⟨312, [(93, 1358), (94, 1133)]⟩, ⟨313, [(93, 1363)]⟩, ⟨298, [(123, 0), (143, 1126)]⟩,
  ⟨315, [(143, 0), (160, 901)]⟩, ⟨315, [(143, 1286)]⟩,
  ⟨296, [(62, 900), (97, 0), (126, 822), (133, 0)]⟩,
  ⟨0, [(71, 839), (72, 839), (73, 839), (122, 1218), (123, 1019), (143, 859), (149, 839)]⟩]

def gotoMapsFrom320 : Array Revision := #[
  ⟨319, [(71, 841), (72, 841), (73, 841), (122, 1247), (149, 841)]⟩,
  ⟨320, [(71, 699), (72, 699), (73, 699), (149, 699)]⟩, ⟨321, [(122, 1273)]⟩,
  ⟨315, [(143, 0), (181, 1093)]⟩, ⟨315, [(35, 993), (135, 884), (143, 0)]⟩,
  ⟨0, [(81, 864), (82, 959), (84, 959), (85, 959), (86, 959), (87, 959), (166, 864)]⟩,
  ⟨325, [(81, 866), (166, 866)]⟩, ⟨315, [(35, 1150), (116, 1366), (143, 0)]⟩,
  ⟨327, [(35, 1156), (116, 1368)]⟩,
  ⟨0, [(35, 479), (71, 985), (72, 985), (73, 985), (149, 985), (153, 432)]⟩,
  ⟨0, [(21, 467), (71, 962), (72, 962), (73, 962), (149, 962), (150, 467)]⟩, ⟨313, [(93, 0)]⟩,
  ⟨318, [(62, 0), (126, 801)]⟩, ⟨332, [(126, 806)]⟩,
  ⟨0, [(3, 526), (4, 515), (5, 515), (25, 527), (32, 929), (143, 430)]⟩, ⟨334, [(32, 921)]⟩,
  ⟨334, [(143, 501)]⟩, ⟨315, [(143, 0)]⟩, ⟨332, [(126, 811)]⟩, ⟨332, [(126, 820)]⟩,
  ⟨332, [(126, 803)]⟩, ⟨332, [(126, 830)]⟩, ⟨332, [(126, 807)]⟩, ⟨332, [(126, 808)]⟩,
  ⟨324, [(135, 0)]⟩, ⟨337, [(35, 1106)]⟩,
  ⟨0, [(38, 938), (39, 958), (40, 1234), (154, 938), (155, 958), (156, 4)]⟩,
  ⟨329, [(35, 0), (153, 433)]⟩, ⟨337, [(35, 0), (153, 585)]⟩,
  ⟨0, [(97, 928), (100, 953), (101, 1022), (103, 1202), (104, 262)]⟩,
  ⟨0, [(97, 931), (100, 960), (101, 1037), (103, 1241), (104, 298)]⟩,
  ⟨0, [(71, 947), (72, 947), (73, 947), (98, 1072), (149, 947)]⟩, ⟨351, [(98, 1222)]⟩,
  ⟨0, [(71, 504), (72, 504), (73, 504), (172, 504)]⟩,
  ⟨0, [(71, 630), (72, 630), (73, 630), (172, 630)]⟩, ⟨321, [(122, 0), (123, 0), (143, 0)]⟩,
  ⟨0, [(83, 917), (110, 1259), (143, 1259), (167, 865)]⟩,
  ⟨356, [(110, 1283), (143, 1284), (167, 888)]⟩, ⟨0, [(6, 894), (7, 894), (8, 894), (146, 894)]⟩,
  ⟨0, [(6, 897), (7, 897), (8, 897), (146, 897)]⟩,
  ⟨0, [(97, 954), (103, 1208), (118, 1024), (119, 277)]⟩,
  ⟨0, [(100, 957), (101, 1032), (103, 1230), (104, 280)]⟩,
  ⟨0, [(97, 961), (103, 1244), (118, 1039), (119, 301)]⟩,
  ⟨0, [(100, 964), (101, 1049), (103, 1266), (104, 324)]⟩,
  ⟨0, [(38, 941), (40, 1345), (154, 941), (156, 4)]⟩,
  ⟨0, [(71, 955), (72, 955), (73, 955), (149, 955)]⟩,
  ⟨0, [(71, 982), (72, 982), (73, 982), (149, 982)]⟩,
  ⟨0, [(71, 956), (72, 956), (73, 956), (149, 956)]⟩,
  ⟨0, [(71, 983), (72, 983), (73, 983), (149, 983)]⟩,
  ⟨0, [(71, 984), (72, 984), (73, 984), (149, 984)]⟩, ⟨0, [(60, 213), (63, 285), (159, 213)]⟩,
  ⟨0, [(60, 155), (63, 286), (159, 155)]⟩, ⟨370, [(63, 312)]⟩,
  ⟨0, [(30, 521), (32, 730), (148, 1076)]⟩, ⟨373, [(44, 598), (148, 0)]⟩,
  ⟨0, [(32, 730), (48, 550), (135, 1253)]⟩, ⟨375, [(48, 559)]⟩,
  ⟨0, [(122, 1246), (123, 1019), (143, 859)]⟩, ⟨0, [(101, 1033), (103, 1231), (104, 281)]⟩,
  ⟨0, [(103, 1237), (118, 1036), (119, 295)]⟩, ⟨0, [(101, 1045), (103, 1255), (104, 304)]⟩,
  ⟨0, [(39, 963), (40, 1346), (155, 963)]⟩, ⟨0, [(101, 1050), (103, 1267), (104, 325)]⟩,
  ⟨0, [(103, 1270), (118, 1052), (119, 330)]⟩]

def gotoMapsFrom384 : Array Revision := #[
  ⟨0, [(101, 1059), (103, 1287), (104, 344)]⟩, ⟨0, [(60, 150), (63, 271), (159, 150)]⟩,
  ⟨370, [(63, 0)]⟩, ⟨0, [(40, 1345), (156, 389)]⟩, ⟨373, [(148, 0)]⟩,
  ⟨0, [(110, 1073), (143, 1073)]⟩, ⟨374, [(32, 0)]⟩, ⟨373, [(32, 0)]⟩, ⟨0, [(32, 456), (44, 598)]⟩,
  ⟨0, [(46, 1278), (151, 965)]⟩, ⟨393, [(151, 1012)]⟩, ⟨0, [(32, 730), (135, 1275)]⟩,
  ⟨374, [(30, 0)]⟩, ⟨0, [(32, 929), (143, 430)]⟩, ⟨397, [(143, 501)]⟩, ⟨0, [(32, 932), (143, 431)]⟩,
  ⟨0, [(83, 917), (167, 888)]⟩, ⟨399, [(143, 502)]⟩, ⟨0, [(110, 1194), (143, 1194)]⟩,
  ⟨0, [(123, 1356), (143, 859)]⟩, ⟨403, [(123, 1362)]⟩, ⟨0, [(110, 487), (143, 487)]⟩,
  ⟨0, [(110, 1193), (143, 1193)]⟩, ⟨0, [(110, 1085), (143, 1085)]⟩, ⟨0, [(110, 1205), (143, 1205)]⟩,
  ⟨0, [(110, 1214), (143, 1214)]⟩, ⟨0, [(110, 1109), (143, 1109)]⟩, ⟨0, [(110, 1119), (143, 1119)]⟩,
  ⟨0, [(110, 1120), (143, 1120)]⟩, ⟨0, [(110, 1260), (143, 1260)]⟩, ⟨0, [(110, 1261), (143, 1261)]⟩,
  ⟨0, [(75, 1281), (143, 1357)]⟩, ⟨0, [(110, 1061), (143, 1061)]⟩, ⟨0, [(110, 1062), (143, 1062)]⟩,
  ⟨0, [(110, 1063), (143, 1063)]⟩, ⟨0, [(110, 1152), (143, 1152)]⟩, ⟨0, [(110, 1154), (143, 1154)]⟩,
  ⟨0, [(110, 629), (143, 629)]⟩, ⟨0, [(110, 634), (143, 634)]⟩, ⟨0, [(30, 1004), (104, 1121)]⟩,
  ⟨0, [(30, 1010), (104, 1134)]⟩, ⟨0, [(7, 945), (145, 945)]⟩, ⟨0, [(7, 951), (145, 951)]⟩,
  ⟨0, [(46, 1294), (151, 1011)]⟩, ⟨388, [(30, 491)]⟩, ⟨0, [(30, 490), (32, 731)]⟩,
  ⟨388, [(30, 496)]⟩, ⟨429, [(30, 495)]⟩, ⟨388, [(30, 498)]⟩, ⟨429, [(30, 497)]⟩,
  ⟨0, [(93, 1352), (170, 1005)]⟩, ⟨388, [(30, 489)]⟩, ⟨429, [(30, 488)]⟩, ⟨388, [(30, 500)]⟩,
  ⟨429, [(30, 499)]⟩, ⟨0, [(93, 1358), (170, 1058)]⟩, ⟨388, [(30, 493)]⟩, ⟨429, [(30, 492)]⟩,
  ⟨427, [(151, 1006)]⟩, ⟨0, [(48, 987), (65, 1192)]⟩, ⟨0, [(92, 275), (101, 1206)]⟩,
  ⟨0, [(97, 1207), (135, 1023)]⟩, ⟨0, [(103, 1232), (104, 282)]⟩, ⟨0, [(101, 1235), (104, 292)]⟩]

def gotoMapsFrom448 : Array Revision := #[
  ⟨0, [(103, 1238), (119, 297)]⟩, ⟨0, [(92, 299), (101, 1242)]⟩, ⟨0, [(97, 1243), (135, 1038)]⟩,
  ⟨0, [(108, 551), (139, 1254)]⟩, ⟨0, [(103, 1256), (104, 305)]⟩, ⟨0, [(103, 1257), (104, 307)]⟩,
  ⟨0, [(101, 1262), (104, 317)]⟩, ⟨0, [(103, 1263), (119, 322)]⟩, ⟨0, [(103, 1268), (104, 326)]⟩,
  ⟨0, [(101, 1269), (104, 329)]⟩, ⟨0, [(103, 1271), (119, 332)]⟩, ⟨0, [(108, 560), (139, 1274)]⟩,
  ⟨0, [(103, 1277), (104, 334)]⟩, ⟨0, [(103, 1288), (104, 345)]⟩, ⟨0, [(103, 1289), (104, 347)]⟩,
  ⟨0, [(101, 1290), (104, 350)]⟩, ⟨0, [(103, 1291), (119, 353)]⟩, ⟨0, [(103, 1297), (104, 362)]⟩,
  ⟨0, [(30, 521)]⟩, ⟨0, [(30, 537)]⟩, ⟨0, [(30, 565)]⟩, ⟨0, [(44, 598)]⟩, ⟨0, [(32, 456)]⟩,
  ⟨0, [(32, 458)]⟩, ⟨0, [(143, 599)]⟩, ⟨0, [(143, 601)]⟩, ⟨0, [(74, 524)]⟩, ⟨0, [(104, 530)]⟩,
  ⟨0, [(104, 533)]⟩, ⟨0, [(104, 541)]⟩, ⟨0, [(104, 542)]⟩, ⟨0, [(104, 543)]⟩, ⟨0, [(104, 546)]⟩,
  ⟨0, [(104, 555)]⟩, ⟨0, [(104, 556)]⟩, ⟨0, [(104, 557)]⟩, ⟨0, [(104, 558)]⟩, ⟨0, [(104, 567)]⟩,
  ⟨0, [(104, 568)]⟩, ⟨0, [(22, 1191)]⟩, ⟨0, [(48, 549)]⟩, ⟨0, [(30, 1361)]⟩, ⟨0, [(74, 672)]⟩,
  ⟨0, [(74, 717)]⟩, ⟨0, [(162, 1100)]⟩, ⟨0, [(151, 1104)]⟩, ⟨0, [(179, 1125)]⟩, ⟨0, [(163, 1128)]⟩,
  ⟨0, [(163, 1129)]⟩, ⟨0, [(163, 1138)]⟩, ⟨0, [(163, 1139)]⟩, ⟨0, [(163, 1140)]⟩,
  ⟨0, [(163, 1145)]⟩, ⟨0, [(163, 1146)]⟩, ⟨0, [(163, 1151)]⟩, ⟨0, [(163, 1165)]⟩,
  ⟨0, [(163, 1166)]⟩, ⟨0, [(163, 1167)]⟩, ⟨0, [(163, 1168)]⟩, ⟨0, [(163, 1169)]⟩,
  ⟨0, [(163, 1170)]⟩, ⟨0, [(163, 1171)]⟩, ⟨0, [(163, 1172)]⟩, ⟨0, [(163, 1173)]⟩]

def gotoMapsFrom512 : Array Revision := #[
  ⟨0, [(163, 1174)]⟩, ⟨0, [(163, 1175)]⟩, ⟨0, [(163, 1176)]⟩, ⟨0, [(163, 1177)]⟩,
  ⟨0, [(163, 1178)]⟩, ⟨0, [(163, 1179)]⟩, ⟨0, [(163, 1180)]⟩, ⟨0, [(162, 1181)]⟩,
  ⟨0, [(162, 1182)]⟩, ⟨0, [(32, 730)]⟩, ⟨0, [(32, 731)]⟩, ⟨0, [(160, 902)]⟩, ⟨0, [(143, 1239)]⟩,
  ⟨0, [(143, 1215)]⟩, ⟨0, [(143, 1285)]⟩, ⟨0, [(34, 1224)]⟩, ⟨0, [(34, 1251)]⟩, ⟨0, [(104, 1132)]⟩,
  ⟨0, [(151, 1006)]⟩, ⟨0, [(175, 1009)]⟩, ⟨0, [(104, 1142)]⟩, ⟨0, [(151, 1011)]⟩,
  ⟨0, [(147, 1077)]⟩, ⟨0, [(99, 1198)]⟩, ⟨0, [(32, 1209)]⟩, ⟨0, [(139, 1213)]⟩, ⟨0, [(99, 1223)]⟩,
  ⟨0, [(139, 1245)]⟩, ⟨0, [(174, 1042)]⟩, ⟨0, [(175, 1044)]⟩, ⟨0, [(139, 1272)]⟩,
  ⟨0, [(175, 1053)]⟩, ⟨0, [(174, 1054)]⟩, ⟨0, [(46, 1278)]⟩, ⟨0, [(170, 1058)]⟩, ⟨0, [(168, 1147)]⟩,
  ⟨0, [(168, 1148)]⟩, ⟨0, [(169, 1149)]⟩, ⟨0, [(147, 1164)]⟩, ⟨0, [(48, 391)]⟩, ⟨0, [(180, 1079)]⟩,
  ⟨0, [(173, 1080)]⟩, ⟨0, [(80, 272)]⟩, ⟨0, [(48, 394)]⟩, ⟨0, [(178, 1087)]⟩, ⟨0, [(148, 1088)]⟩,
  ⟨0, [(147, 1089)]⟩, ⟨0, [(181, 1090)]⟩, ⟨0, [(180, 1091)]⟩, ⟨0, [(173, 1094)]⟩,
  ⟨0, [(152, 1095)]⟩, ⟨0, [(30, 490)]⟩, ⟨0, [(161, 1099)]⟩, ⟨0, [(80, 287)]⟩, ⟨0, [(90, 1340)]⟩,
  ⟨0, [(178, 1107)]⟩, ⟨0, [(180, 1110)]⟩, ⟨0, [(152, 1111)]⟩, ⟨0, [(30, 495)]⟩, ⟨0, [(30, 497)]⟩,
  ⟨0, [(161, 1115)]⟩, ⟨0, [(162, 1116)]⟩, ⟨0, [(164, 1118)]⟩, ⟨0, [(90, 1351)]⟩]

def gotoMapsFrom576 : Array Revision := #[
  ⟨0, [(93, 1352)]⟩, ⟨0, [(30, 488)]⟩, ⟨0, [(80, 333)]⟩, ⟨0, [(30, 499)]⟩, ⟨0, [(165, 1130)]⟩,
  ⟨0, [(164, 1131)]⟩, ⟨0, [(158, 1135)]⟩, ⟨0, [(30, 492)]⟩, ⟨0, [(179, 1136)]⟩, ⟨0, [(163, 1137)]⟩,
  ⟨0, [(165, 1141)]⟩, ⟨0, [(158, 1143)]⟩, ⟨0, [(30, 1367)]⟩, ⟨0, [(168, 1153)]⟩, ⟨0, [(169, 1155)]⟩,
  ⟨0, [(116, 1370)]⟩, ⟨0, [(116, 1372)]⟩, ⟨0, [(152, 1158)]⟩, ⟨0, [(164, 1161)]⟩,
  ⟨0, [(164, 1163)]⟩, ⟨0, [(22, 1190)]⟩, ⟨0, [(22, 16)]⟩, ⟨0, [(22, 17)]⟩, ⟨0, [(37, 111)]⟩,
  ⟨0, [(48, 269)]⟩, ⟨0, [(48, 151)]⟩, ⟨0, [(114, 276)]⟩, ⟨0, [(124, 531)]⟩, ⟨0, [(124, 534)]⟩,
  ⟨0, [(104, 283)]⟩, ⟨0, [(22, 1335)]⟩, ⟨0, [(48, 284)]⟩, ⟨0, [(92, 291)]⟩, ⟨0, [(135, 1035)]⟩,
  ⟨0, [(119, 296)]⟩, ⟨0, [(114, 300)]⟩, ⟨0, [(135, 884)]⟩, ⟨0, [(124, 544)]⟩, ⟨0, [(124, 547)]⟩,
  ⟨0, [(104, 306)]⟩, ⟨0, [(104, 308)]⟩, ⟨0, [(104, 309)]⟩, ⟨0, [(104, 318)]⟩, ⟨0, [(119, 321)]⟩,
  ⟨0, [(119, 323)]⟩, ⟨0, [(30, 553)]⟩, ⟨0, [(104, 327)]⟩, ⟨0, [(92, 328)]⟩, ⟨0, [(135, 1051)]⟩,
  ⟨0, [(119, 331)]⟩, ⟨0, [(108, 562)]⟩, ⟨0, [(104, 335)]⟩, ⟨0, [(104, 336)]⟩, ⟨0, [(104, 337)]⟩,
  ⟨0, [(104, 342)]⟩, ⟨0, [(119, 343)]⟩, ⟨0, [(104, 346)]⟩, ⟨0, [(104, 348)]⟩, ⟨0, [(104, 349)]⟩,
  ⟨0, [(104, 351)]⟩, ⟨0, [(119, 352)]⟩, ⟨0, [(119, 354)]⟩, ⟨0, [(108, 569)]⟩, ⟨0, [(104, 355)]⟩]

def gotoMapsFrom640 : Array Revision := #[
  ⟨0, [(48, 251)]⟩, ⟨0, [(30, 572)]⟩, ⟨0, [(104, 363)]⟩, ⟨0, [(104, 364)]⟩, ⟨0, [(104, 365)]⟩,
  ⟨0, [(104, 366)]⟩, ⟨0, [(119, 367)]⟩, ⟨0, [(30, 1365)]⟩, ⟨0, [(104, 377)]⟩, ⟨0, [(30, 1371)]⟩,
  ⟨0, [(22, 46)]⟩, ⟨0, [(22, 47)]⟩, ⟨0, [(22, 76)]⟩, ⟨0, [(22, 77)]⟩]

/-- The maps from constructs to states. -/
def gotoMaps : Chunks Revision :=
  ⟨#[
    gotoMapsFrom0, gotoMapsFrom64, gotoMapsFrom128, gotoMapsFrom192, gotoMapsFrom256,
    gotoMapsFrom320, gotoMapsFrom384, gotoMapsFrom448, gotoMapsFrom512, gotoMapsFrom576,
    gotoMapsFrom640]⟩

end Testsmith.Java
