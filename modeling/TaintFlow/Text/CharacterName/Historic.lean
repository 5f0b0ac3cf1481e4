/-!
# Names of historic letters

Names in the order of their characters. An entry starts with the number of words that its name has
in common with the name before, and goes on with the other words; `=` gives, in hexadecimal digits,
the character of the entry after it, and without it comes the next character. A word in small letters
stands for one of the common words.
-/

namespace TaintFlow.CharacterName

/-- Ancient alphabets and syllabaries. -/
def ancientNames : List String :=
  ["=10000,0LINEAR B hp B008 A,3B038 E,3B028 I,3B061 O,3B010 U,3B001 DA,3B045 DE,3B007 DI,3B014 DO",
   "3B051 DU,3B057 JA,3B046 JE,=1000D,3B036 JO,3B065 JU,3B077 KA,3B044 KE,3B067 KI,3B070 KO",
   "3B081 KU,3B080 MA,3B013 ME,3B073 MI,3B015 MO,3B023 MU,3B006 NA,3B024 NE,3B030 NI,3B052 NO",
   "3B055 NU,3B003 PA,3B072 PE,3B039 PI,3B011 PO,3B050 PU,3B016 QA,3B078 QE,3B021 QI,3B032 QO",
   "=10028,3B060 RA,3B027 RE,3B053 RI,3B002 RO,3B026 RU,3B031 SA,3B009 SE,3B041 SI,3B012 SO",
   "3B058 SU,3B059 TA,3B004 TE,3B037 TI,3B005 TO,3B069 TU,3B054 WA,3B075 WE,3B040 WI,3B042 WO",
   "=1003C,3B017 ZA,3B074 ZE,=1003F,3B020 ZO,3B025 A2,3B043 A3,3B085 AU,3B071 DWE,3B090 DWO",
   "3B048 NWA,3B029 PU2,3B062 PTE,3B076 RA2,3B033 RA3,3B068 RO2,3B066 TA2,3B087 TWE,3B091 bo",
   "=10050,2y B018,3B019,3B022,3B034,3B047,3B049,3B056,3B063,3B064,3B079,3B082,3B083,3B086,3B089",
   "=10080,2IDEOGRAM B100 MAN,3B102 WOMAN,3B104 DEER,3B105 EQUID,3B105F MARE,3B105M STALLION",
   "3B106F EWE,3B106M RAM,3B107F SHE-GOAT,3B107M HE-GOAT,3B108F SOW,3B108M BOAR,3B109F COW",
   "3B109M BULL,3B120 WHEAT,3B121 BARLEY,3B122 OLIVE,3B123 SPICE,3B125 CYPERUS,2MONOGRAM B127 KAPO",
   "3B128 KANAKO,2IDEOGRAM B130 OIL,3B131 WINE,3B132,2MONOGRAM B133 AREPA,3B135 MERI",
   "2IDEOGRAM B140 BRONZE,3B141 GOLD,3B142,3B145 WOOL,3B146,3B150,3B151 kf,3B152,3B153,3B154",
   "2MONOGRAM B156 TURO2,2IDEOGRAM B157,3B158,3B159 CLOTH,3B160,3B161,3B162 GARMENT,3B163 ARMOUR",
   "3B164,3B165,3B166,3B167,3B168,3B169,3B170,3B171,3B172,3B173 MONTH,3B174,3B176 TREE,3B177,3B178",
   "3B179,3B180,3B181,3B182,3B183,3B184,3B185,3B189,3B190,3B191 HELMET,3B220 FOOTSTOOL",
   "3B225 BATHTUB,3B230 SPEAR,3B231 f,3B232,3B233 SWORD,3B234,3B236,3B240 WHEELED CHARIOT",
   "3B241 CHARIOT,3B242 CHARIOT FRAME,3B243 WHEEL,3B245,3B246,2MONOGRAM B247 DIPTE,2IDEOGRAM B248",
   "3B249,3B251,3B252,3B253,3B254 DART,3B255,3B256,3B257,3B258,3B259,3VESSEL B155,4B200,4B201",
   "4B202,4B203,4B204,4B205,4B206,4B207,4B208,4B209,4B210,4B211,4B212,4B213,4B214,4B215,4B216",
   "4B217,4B218,4B219,4B221,4B222,4B226,4B227,4B228,4B229,4B250,4B305,=10100,0AEGEAN WORD dj em",
   "3cg,1CHECK ah,=10107,1cx bl,2bo,2s,2au,2ay,2et,2av,2ap,2ci,2iu,2ey,2it,2FORTY,2hv,2SIXTY,2er",
   "2EIGHTY,2fi,2bl ac,2bo ac,2s ac,2au ac,2ay ac,2et ac,2av ac,2ap ac,2ci ac,2bl ad,2bo ad,2s ad",
   "2au ad,2ay ad,2et ad,2av ad,2ap ad,2ci ad,2iu ad,2ey ad,2it ad,2FORTY ad,2hv ad,2SIXTY ad",
   "2er ad,2EIGHTY ad,2fi ad,=10137,1WEIGHT BASE UNIT,2FIRST SUBUNIT,2SECOND SUBUNIT",
   "2THIRD SUBUNIT,2FOURTH SUBUNIT,1DRY MEASURE FIRST SUBUNIT,1LIQUID MEASURE FIRST SUBUNIT",
   "1MEASURE SECOND SUBUNIT,2THIRD SUBUNIT,0jq ACROPHONIC ATTIC bl by,4bg,4DRACHMA,3ay,3hv,3ay ac",
   "4ad,3hv ad,3ay TALENTS,3iu TALENTS,3hv TALENTS,3bl ac TALENTS,3ay ac TALENTS,3bl ad TALENTS",
   "3ay ad TALENTS,4STATERS,3iu STATERS,3hv STATERS,3bl ac STATERS,3ay ac STATERS,3bl ad STATERS",
   "3iu ad STATERS,3hv ad STATERS,3iu MNAS,2HERAEUM bl PLETHRON,2THESPIAN bl,2HERMIONIAN bl",
   "2EPIDAUREAN bo,2THESPIAN bo,2CYRENAIC bo DRACHMAS,2EPIDAUREAN bo DRACHMAS,2TROEZENIAN ay,3iu",
   "4ek e,2HERMIONIAN iu,2MESSENIAN iu,2THESPIAN iu,3it,2TROEZENIAN hv,4ek e,2HERMIONIAN hv",
   "2THESPIAN hv,3bl ac,3s ac,2EPIDAUREAN ay ac,2TROEZENIAN ay ac,2THESPIAN ay ac,2CARYSTIAN ay ac",
   "2NAXIAN ay ac,2THESPIAN bl ad,3ay ad,2DELPHIC ay MNAS,2STRATIAN hv MNAS,1bl bg h,4ek e",
   "1bo THIRDS h,1s gf h,1YEAR h,1TALENT h,1DRACHMA h,1OBOL h,1bo OBOLS h,1s OBOLS h,1au OBOLS h",
   "1ay OBOLS h,1METRETES h,1KYATHOS BASE h,1LITRA h,1OUNKIA h,1XESTES h,1ARTABE h,1AROURA h",
   "1GRAMMA h,1TRYBLION BASE h,1dq h,1bl by h,1SINUSOID h,1INDICTION h,0NOMISMA h,=10190",
   "0ROMAN SEXTANS h,1UNCIA h,1SEMUNCIA h,1SEXTULA h,1DIMIDIA SEXTULA h,1SILIQUA h,1DENARIUS h",
   "1QUINARIUS h,1SESTERTIUS h,1DUPONDIUS h,1AS h,1CENTURIAL h,0ASCIA y,=101A0,0jq y TAU RHO",
   "=101D0,0PHAISTOS DISC h PEDESTRIAN,3PLUMED HEAD,3TATTOOED HEAD,3CAPTIVE,3CHILD,3WOMAN,3HELMET",
   "3GAUNTLET,3TIARA,3f,3BOW,3SHIELD,3CLUB,3MANACLES,3MATTOCK,3SAW,3LID,3BOOMERANG",
   "3CARPENTRY PLANE,3DOLIUM,3COMB,3SLING,3COLUMN,3BEEHIVE,3SHIP,3kf,3HIDE,3BULLS LEG,3CAT,3RAM",
   "3EAGLE,3DOVE,3TUNNY,3BEE,3PLANE TREE,3VINE,3PAPYRUS,3ROSETTE,3LILY,3OX BACK,3FLUTE,3GRATER",
   "3STRAINER,3d AXE,3WAVY BAND,3ch kc v,=10280,0LYCIAN a A,2E,2B,2BH,2G,2D,2I,2W,2Z,2TH,2J,2K,2Q",
   "2L,2M,2N,2MM,2NN,2U,2P,2KK,2R,2S,2T,2TT,2AN,2EN,2H,2X,=102A0,0CARIAN a A,2P2,2D,2L,2UUU,2R,2LD",
   "2A2,2Q,2B,2M,2O,2D2,2T,2SH,2SH2,2S,2C-18,2U,2NN,2X,2N,2TT2,2P,2SS,2I,2E,2UUUU,2K,2K2,2ND,2UU",
   "2G,2G2,2ST,2ST2,2NG,2II,2C-39,2TT,2UUU2,2RR,2MB,2MB2,2MB3,2MB4,2LD2,2E2,2UUU3,=102E0",
   "0hu EPACT THOUSANDS ah,2bp bl,3bo,3s,3au,3ay,3et,3av,3ap,3ci,2cx iu,3ey,3it,3FORTY,3hv,3SIXTY",
   "3er,3EIGHTY,3fi,3bl ac,3bo ac,3s ac,3au ac,3ay ac,3et ac,3av ac,3ap ac,3ci ac,=10300",
   "0OLD ITALIC a A,3BE,3KE,3DE,3E,3VE,3ZE,3HE,3THE,3I,3KA,3EL,3EM,3EN,3ESH,3O,3PE,3SHE,3KU,3ER",
   "3ES,3TE,3U,3EKS,3PHE,3KHE,3EF,3ERS,3CHE,3II,3UU,3ESS,2NUMERAL bl,3ay,3iu,3hv,=1032D,2a YE",
   "3NORTHERN TSE,3SOUTHERN TSE,0GOTHIC a AHSA,2BAIRKAN,2GIBA,2DAGS,2AIHVUS,2QAIRTHRA,2IUJA,2HAGL",
   "2THIUTH,2EIS,2KUSMA,2LAGUS,2MANNA,2NAUTHS,2JER,2URUS,2PAIRTHRA,2fi,2RAIDA,2SAUIL,2TEIWS,2WINJA",
   "2FAIHU,2IGGWS,2HWAIR,2OTHAL,2ci ac,=10350,0OLD PERMIC a AN,3BUR,3GAI,3DOI,3E,3ZHOI,3DZHOI",
   "3ZATA,3DZITA,3I,3KOKE,3LEI,3MENOE,3NENOE,3VOOI,3PEEI,3REI,3SII,3TAI,3U,3CHERY,3SHOOI,3SHCHOOI",
   "3YRY,3YERU,3O,3OO,3EF,3HA,3TSIU,3VER,3YER,3YERI,3YAT,3IE,3YU,3YA,3IA,0ch OLD PERMIC a AN,4DOI",
   "4ZATA,4NENOE,4SII,=10380,0UGARITIC a ALPA,2BETA,2GAMLA,2ka,2DELTA,2HO,2WO,2ZETA,2HOTA,2TET",
   "2YOD,2KAF,2SHIN,2LAMDA,2MEM,2DHAL,2NUN,2ZU,2SAMKA,2AIN,2PU,2SADE,2QOPA,2RASHA,2THANNA,2GHAIN",
   "2TO,2I,2U,2SSU,=1039F,1WORD DIVIDER,0OLD PERSIAN h A,3I,3U,3KA,3KU,3GA,3GU,3XA,3CA,3JA,3JI,3TA",
   "3TU,3DA,3DI,3DU,3kp,3PA,3BA,3FA,3NA,3NU,3MA,3MI,3MU,3YA,3VA,3VI,3RA,3RU,3LA,3SA,3ZA,3je,3SSA",
   "3HA,=103C8,3AURAMAZDAA,3AURAMAZDAA-2,3AURAMAZDAAHA,3XSHAAYATHIYA,3DAHYAAUSH,3DAHYAAUSH-2,3BAGA",
   "3BUUMISH,2WORD DIVIDER,2cx bl,3bo,3iu,3ey,3ac,=10400,0DESERET c a eu I,4E,4A,4AH,4O,4OO,3ev I",
   "4E,4A,4AH,4O,4OO,3AY,3OW,3WU,3YEE,3H,3PEE,3BEE,3TEE,3DEE,3CHEE,3JEE,3KAY,3GAY,3EF,3VEE,3ETH",
   "3THEE,3ES,3ZEE,3ESH,3ZHEE,3ER,3EL,3EM,3EN,3ENG,3OI,3EW,1d a eu I,4E,4A,4AH,4O,4OO,3ev I,4E,4A",
   "4AH,4O,4OO,3AY,3OW,3WU,3YEE,3H,3PEE,3BEE,3TEE,3DEE,3CHEE,3JEE,3KAY,3GAY,3EF,3VEE,3ETH,3THEE",
   "3ES,3ZEE,3ESH,3ZHEE,3ER,3EL,3EM,3EN,3ENG,3OI,3EW,0SHAVIAN a PEEP,2TOT,2KICK,2FEE,2THIGH,2SO",
   "2SURE,2CHURCH,2YEA,2HUNG,2BIB,2DEAD,2GAG,2VOW,2THEY,2ZOO,2MEASURE,2JUDGE,2WOE,2HA-HA,2LOLL",
   "2MIME,2IF,2EGG,2ASH,2ADO,2ON,2WOOL,2OUT,2AH,2ROAR,2NUN,2EAT,2AGE,2ICE,2UP,2OAK,2OOZE,2OIL,2AWE",
   "2ARE,2OR,2AIR,2ERR,2ARRAY,2EAR,2IAN,2YEW,0OSMANYA a de,2BA,2TA,2JA,2XA,2ka,2DEEL,2RA,2SA",
   "2SHIIN,2DHA,2CAYN,2GA,2FA,2QAAF,2KAAF,2LAAN,2MIIN,2NUUN,2WAW,2HA,2YA,2A,2E,2I,2O,2U,2AA,2EE",
   "2OO,=104A0,1bp dq,2bl,2bo,2s,2au,2ay,2et,2av,2ap,2ci,=104B0,0OSAGE c a A,3AI,3AIN,3AH,3BRA,3jy",
   "3EHCHA,3E,3EIN,3HA,3HYA,3I,3KA,3EHKA,3KYA,3LA,3MA,3NA,3O,3OIN,3PA,3EHPA,3SA,3je,3TA,3EHTA,3TSA",
   "3EHTSA,3TSHA,3DHA,3U,3WA,3ka,3GHA,3ZA,3ZHA,=104D8,1d a A,3AI,3AIN,3AH,3BRA,3jy,3EHCHA,3E,3EIN",
   "3HA,3HYA,3I,3KA,3EHKA,3KYA,3LA,3MA,3NA,3O,3OIN,3PA,3EHPA,3SA,3je,3TA,3EHTA,3TSA,3EHTSA,3TSHA",
   "3DHA,3U,3WA,3ka,3GHA,3ZA,3ZHA,=10500,0ELBASAN a A,2BE,2CE,2CHE,2DE,2NDE,2DHE,2EI,2E,2FE,2GE",
   "2GJE,2HE,2I,2JE,2KE,2LE,2LLE,2ME,2NE,2NA,2NJE,2O,2PE,2QE,2RE,2RRE,2SE,2SHE,2TE,2THE,2U,2VE,2XE",
   "2Y,2ZE,2ZHE,2GHE,2GHAMMA,2KHE,=10530,0CAUCASIAN ALBANIAN a ALT,3BET,3GIM,3DAT,3EB,3ZARL,3EYN",
   "3ZHIL,3TAS,3jy,3YOWD,3ZHA,3IRB,3je,3LAN,3INYA,3XEYN,3DYAN,3CAR,3JHOX,3KAR,3LYIT,3HEYT,3QAY",
   "3AOR,3CHOY,3CHI,3CYAY,3MAQ,3QAR,3NOWC,3DZYAY,3SHAK,3JAYN,3ON,3TYAY,3FAM,3DZAY,3CHAT,3PEN",
   "3GHEYS,3RAT,3SEYK,3VEYZ,3TIWR,3SHOY,3IWN,3CYAW,3CAYN,3YAYD,3PIWR,3KIW,=1056F,2CITATION ah",
   "0VITHKUQI c a A,3BBE,3BE,3CE,3CHE,3DE,3DHE,3EI,3E,3FE,3GA,=1057C,3HA,3HHA,3I,3IJE,3JE,3KA,3LA",
   "3LLA,3ME,3NE,3NJE,3O,3PE,3QA,3RE,=1058C,3SE,3SHE,3TE,3THE,3U,3VE,3XE,=10594,3Y,3ZE,=10597",
   "1d a A,3BBE,3BE,3CE,3CHE,3DE,3DHE,3EI,3E,3FE,3GA,=105A3,3HA,3HHA,3I,3IJE,3JE,3KA,3LA,3LLA,3ME",
   "3NE,3NJE,3O,3PE,3QA,3RE,=105B3,3SE,3SHE,3TE,3THE,3U,3VE,3XE,=105BB,3Y,3ZE,=105C0,0TODHRI a A",
   "2AS,2BA,2MBA,2CA,2jy,2DA,2NDA,2DHA,2EI,2E,2FA,2GA,2jd,2GJA,2NGJA,2HA,2HJA,2I,2JA,2KA,2LA,2LLA",
   "2MA,2NA,2NJAN,2O,2PA,2QA,2RA,2RRA,2SA,2je,2SHTA,2TA,2kp,2U,2VA,2XA,2NXA,2XHA,2NXHA,2Y,2JY,2ZA",
   "2ZHA,2GHA,2STA,2SKAN,2ka,2PSA,2OO,=10600,0LINEAR A h AB001,3AB002,3AB003,3AB004,3AB005,3AB006",
   "3AB007,3AB008,3AB009,3AB010,3AB011,3AB013,3AB016,3AB017,3AB020,3AB021,3AB021F,3AB021M,3AB022",
   "3AB022F,3AB022M,3AB023,3AB023M,3AB024,3AB026,3AB027,3AB028,3A028B,3AB029,3AB030,3AB031,3AB034",
   "3AB037,3AB038,3AB039,3AB040,3AB041,3AB044,3AB045,3AB046,3AB047,3AB048,3AB049,3AB050,3AB051",
   "3AB053,3AB054,3AB055,3AB056,3AB057,3AB058,3AB059,3AB060,3AB061,3AB065,3AB066,3AB067,3AB069",
   "3AB070,3AB073,3AB074,3AB076,3AB077,3AB078,3AB079,3AB080,3AB081,3AB082,3AB085,3AB086,3AB087",
   "3A100-102,3AB118,3AB120,3A120B,3AB122,3AB123,3AB131A,3AB131B,3A131C,3AB164,3AB171,3AB180",
   "3AB188,3AB191,3A301,3A302,3A303,3A304,3A305,3A306,3A307,3A308,3A309A,3A309B,3A309C,3A310,3A311",
   "3A312,3A313A,3A313B,3A313C,3A314,3A315,3A316,3A317,3A318,3A319,3A320,3A321,3A322,3A323,3A324",
   "3A325,3A326,3A327,3A328,3A329,3A330,3A331,3A332,3A333,3A334,3A335,3A336,3A337,3A338,3A339",
   "3A340,3A341,3A342,3A343,3A344,3A345,3A346,3A347,3A348,3A349,3A350,3A351,3A352,3A353,3A354",
   "3A355,3A356,3A357,3A358,3A359,3A360,3A361,3A362,3A363,3A364,3A365,3A366,3A367,3A368,3A369",
   "3A370,3A371,3A400-VAS,3A401-VAS,3A402-VAS,3A403-VAS,3A404-VAS,3A405-VAS,3A406-VAS,3A407-VAS",
   "3A408-VAS,3A409-VAS,3A410-VAS,3A411-VAS,3A412-VAS,3A413-VAS,3A414-VAS,3A415-VAS,3A416-VAS",
   "3A417-VAS,3A418-VAS,3A501,3A502,3A503,3A504,3A505,3A506,3A508,3A509,3A510,3A511,3A512,3A513",
   "3A515,3A516,3A520,3A521,3A523,3A524,3A525,3A526,3A527,3A528,3A529,3A530,3A531,3A532,3A534",
   "3A535,3A536,3A537,3A538,3A539,3A540,3A541,3A542,3A545,3A547,3A548,3A549,3A550,3A551,3A552",
   "3A553,3A554,3A555,3A556,3A557,3A559,3A563,3A564,3A565,3A566,3A568,3A569,3A570,3A571,3A572",
   "3A573,3A574,3A575,3A576,3A577,3A578,3A579,3A580,3A581,3A582,3A583,3A584,3A585,3A586,3A587",
   "3A588,3A589,3A591,3A592,3A594,3A595,3A596,3A598,3A600,3A601,3A602,3A603,3A604,3A606,3A608",
   "3A609,3A610,3A611,3A612,3A613,3A614,3A615,3A616,3A617,3A618,3A619,3A620,3A621,3A622,3A623",
   "3A624,3A626,3A627,3A628,3A629,3A634,3A637,3A638,3A640,3A642,3A643,3A644,3A645,3A646,3A648",
   "3A649,3A651,3A652,3A653,3A654,3A655,3A656,3A657,3A658,3A659,3A660,3A661,3A662,3A663,3A664",
   "=10740,3A701 A,3A702 B,3A703 D,3A704 E,3A705 F,3A706 H,3A707 J,3A708 K,3A709 L,3A709-2 L2",
   "3A709-3 L3,3A709-4 L4,3A709-6 L6,3A710 W,3A711 X,3A712 Y,3A713 gw,3A714 ABB,3A715 BB,3A717 DD",
   "3A726 EYYY,3A732 JE,=10760,3A800,3A801,3A802,3A803,3A804,3A805,3A806,3A807,=10780,0ds a d c AA",
   "2hf eo ia,3bg eo ia,2d AE,3c B,3B b aw,=10787,3DZ fz,5b cl aw,6CURL,3DEZH fz,3D b gy,5aw,6p gy",
   "3as E,3el as dv E,3FENG fz,3RAMS kf,3c G,3G b aw,3c G b aw,3H b v,3c H,3HENG b aw",
   "3ko J b v p aw,3LS fz,3LZ fz,3L b BELT,3c L b BELT,3L b cl aw p BELT,3LEZH,4b cl aw,3bs Y",
   "5b BELT,3O b v,3c OE,3el gw,3Q,3bs R b eu LEG,8p cl aw,3R b gy,5FISHHOOK,3c R,3TC fz b CURL",
   "3TS fz,5b cl aw,3TESH fz,3T b cl aw,3V b g aw,=107B2,3c Y,2ga fk b v,2as ga fk b v",
   "2BILABIAL CLICK,2DENTAL CLICK,2LATERAL CLICK,2ALVEOLAR CLICK,2cl CLICK b cl aw,2d S b CURL",
   "=10800,0CYPRIOT hp A,2E,2I,2O,2U,2JA,=10808,2JO,=1080A,2KA,2KE,2KI,2KO,2KU,2LA,2LE,2LI,2LO,2LU",
   "2MA,2ME,2MI,2MO,2MU,2NA,2NE,2NI,2NO,2NU,2PA,2PE,2PI,2PO,2PU,2RA,2RE,2RI,2RO,2RU,2SA,2SE,2SI",
   "2SO,2SU,2TA,2TE,2TI,2TO,2TU,2WA,2WE,2WI,2WO,=10837,2XA,2XE,=1083C,2ZA,=1083F,2ZO",
   "0IMPERIAL ARAMAIC a ALEPH,3BETH,3GIMEL,3DALETH,3HE,3WAW,3ZAYIN,3HETH,3TETH,3YODH,3KAPH,3LAMEDH",
   "3MEM,3NUN,3SAMEKH,3AYIN,3PE,3SADHE,3QOPH,3RESH,3SHIN,3TAW,=10857,2fl h,2cx bl,3bo,3s,3iu,3ey",
   "3bl ac,4ad,3iu ad,0PALMYRENE a ALEPH,2BETH,2GIMEL,2DALETH,2HE,2WAW,2ZAYIN,2HETH,2TETH,2YODH",
   "2KAPH,2LAMEDH,2MEM,2q NUN,2NUN,2SAMEKH,2AYIN,2PE,2SADHE,2QOPH,2RESH,2SHIN,2TAW,1bm FLEURON",
   "1ax FLEURON,1cx bl,2bo,2s,2au,2ay,2iu,2ey,0NABATAEAN a q ALEPH,2ALEPH,2q BETH,2BETH,2GIMEL",
   "2DALETH,2q HE,2HE,2WAW,2ZAYIN,2HETH,2TETH,2q YODH,2YODH,2q KAPH,2KAPH,2q LAMEDH,2LAMEDH,2q MEM",
   "2MEM,2q NUN,2NUN,2SAMEKH,2AYIN,2PE,2SADHE,2QOPH,2RESH,2q SHIN,2SHIN,2TAW,=108A7,1cx bl,2bo,2s",
   "2au,1CRUCIFORM cx au,1cx ay,2iu,2ey,2bl ac,=108E0,0HATRAN a ALEPH,2BETH,2GIMEL,2DALETH-RESH",
   "2HE,2WAW,2ZAYN,2HETH,2TETH,2YODH,2KAPH,2LAMEDH,2MEM,2NUN,2SAMEKH,2AYN,2PE,2SADHE,2QOPH,=108F4",
   "2SHIN,2TAW,=108FB,1cx bl,2ay,2iu,2ey,2bl ac,0PHOENICIAN a ALF,2BET,2GAML,2DELT,2HE,2WAU,2ZAI",
   "2HET,2TET,2YOD,2KAF,2LAMD,2MEM,2NUN,2SEMK,2AIN,2PE,2SADE,2QOF,2ROSH,2SHIN,2TAU,1cx bl,2iu,2ey",
   "2bl ac,2bo,2s,=1091F,1WORD dj,0LYDIAN a A,2B,2G,2D,2E,2V,2I,2Y,2K,2L,2M,2N,2O,2R,2SS,2T,2U,2F",
   "2Q,2S,2TT,2AN,2EN,2LY,2NN,2C,=1093F,1eo ah,=10980,0MEROITIC HIEROGLYPHIC a A,3E,3I,3O,3YA,3WA",
   "3BA,3BA-2,3PA,3MA,3NA,3NA-2,3NE,3NE-2,3RA,3RA-2,3LA,3ka,3HHA,3SA,3SA-2,3SE,3KA,3QA,3TA,3TA-2",
   "3TE,3TE-2,3TO,3DA,2y VIDJ,3VIDJ-2,1CURSIVE a A,3E,3I,3O,3YA,3WA,3BA,3PA,3MA,3NA,3NE,3RA,3LA",
   "3ka,3HHA,3SA,3hz SA,3SE,3KA,3QA,3TA,3TE,3TO,3DA,=109BC,2hc ELEVEN TWELFTHS,3bl bg",
   "2LOGOGRAM RMT,3IMN,2cx bl,3bo,3s,3au,3ay,3et,3av,3ap,3ci,3iu,3ey,3it,3FORTY,3hv,3SIXTY,3er",
   "=109D2,3bl ac,3bo ac,3s ac,3au ac,3ay ac,3et ac,3av ac,3ap ac,3ci ac,3bl ad,3bo ad,3s ad",
   "3au ad,3ay ad,3et ad,3av ad,3ap ad,3ci ad,3iu ad,3ey ad,3it ad,3FORTY ad,3hv ad,3SIXTY ad",
   "3er ad,3EIGHTY ad,3fi ad,3bl ac ad,3bo ac ad,3s ac ad,3au ac ad,3ay ac ad,3et ac ad,3av ac ad",
   "3ap ac ad,3ci ac ad,2hc bl TWELFTH,3bo TWELFTHS,3s TWELFTHS,3au TWELFTHS,3ay TWELFTHS",
   "3et TWELFTHS,3av TWELFTHS,3ap TWELFTHS,3ci TWELFTHS,3iu TWELFTHS,0KHAROSHTHI a A,1bn h I,3U",
   "3bz R,=10A05,3E,3O,=10A0C,2kg ah,1h m do o,2bt,2dw,1a KA,2ka,2GA,2GHA,=10A15,2CA,2jy,2JA",
   "=10A19,2kb,2TTA,2ii,2DDA,2io,2NNA,2TA,2kp,2DA,2DHA,2NA,2PA,2PHA,2BA,2BHA,2MA,2YA,2RA,2LA,2VA",
   "2je,2SSA,2SA,2ZA,2HA,2KKA,2TTTHA,2TTTA,2VHA,=10A38,1h fe i,2CAUDA,2cg o,=10A3F,1ej,1bp bl,2bo",
   "2s,2au,1cx iu,2ey,2bl ac,3ad,1hc bl bg,=10A50,1be cg,2d ai,2ai,2CRESCENT fe,2MANGALAM,2LOTUS",
   "2hh,2m hh,2LINES,=10A60,0OLD gg ARABIAN a HE,4LAMEDH,4HETH,4MEM,4QOPH,4WAW,4SHIN,4RESH,4BETH",
   "4TAW,4SAT,4KAPH,4NUN,4KHETH,4SADHE,4SAMEKH,4FE,4de,4AYN,4DHADHE,4GIMEL,4DALETH,4GHAYN,4TETH",
   "4ZAYN,4DHALETH,4YODH,4THAW,4THETH,3cx bl,4hv,3NUMERIC INDICATOR,1fo ARABIAN a HEH,4LAM,4if,4cf",
   "4QAF,4WAW,4ES-2,4REH,4BEH,4TEH,4ES-1,4KAF,4jl,4hg,4SAD,4ES-3,4FEH,4de,4AIN,4DAD,4GEEM,4DAL",
   "4GHAIN,4TAH,4ZAIN,4THAL,4gp,4THEH,4ZAH,3cx bl,4iu,4ey,=10AC0,0MANICHAEAN a ALEPH,2BETH,2BHETH",
   "2GIMEL,2GHIMEL,2DALETH,2HE,2WAW,1h UD,1a ZAYIN,2ZHAYIN,2JAYIN,2JHAYIN,2HETH,2TETH,2YODH,2KAPH",
   "2XAPH,2KHAPH,2LAMEDH,2DHAMEDH,2THAMEDH,2MEM,2NUN,2SAMEKH,2AYIN,2AAYIN,2PE,2FE,2SADHE,2QOPH",
   "2XOPH,2QHOPH,2RESH,2SHIN,2SSHIN,2TAW,1ec ah i,3o,=10AEB,1cx bl,2ay,2iu,2ey,2bl ac,1be go",
   "2FLEURON,2m cg WITHIN cg,2cg WITHIN cg,3,2bo cy,2em FILLER,=10B00,0AVESTAN a A,2AA,2AO,2AAO",
   "2AN,2AAN,2AE,2AEE,2E,2EE,2O,2OO,2I,2II,2U,2UU,2KE,2XE,2XYE,2XVE,2GE,2GGE,2GHE,2CE,2JE,2TE,2THE",
   "2DE,2DHE,2TTE,2PE,2FE,2BE,2BHE,2NGE,2NGYE,2NGVE,2NE,2NYE,2NNE,2ME,2HME,2YYE,2YE,2VE,2RE,2LE",
   "2SE,2ZE,2SHE,2ZHE,2SHYE,2SSHE,2HE,=10B39,1ec ah,0TINY bo cy da bl cg be,0d bo cy da bl cg be",
   "0dg bo cy da bl cg be,1bl cg da bo cy be,1bo RINGS da bl do be,1bl do da bo RINGS be",
   "0INSCRIPTIONAL PARTHIAN a ALEPH,3BETH,3GIMEL,3DALETH,3HE,3WAW,3ZAYIN,3HETH,3TETH,3YODH,3KAPH",
   "3LAMEDH,3MEM,3NUN,3SAMEKH,3AYIN,3PE,3SADHE,3QOPH,3RESH,3SHIN,3TAW,=10B58,2cx bl,3bo,3s,3au,3iu",
   "3ey,3bl ac,4ad,1PAHLAVI a ALEPH,3BETH,3GIMEL,3DALETH,3HE,3WAW-AYIN-RESH,3ZAYIN,3HETH,3TETH",
   "3YODH,3KAPH,3LAMEDH,3MEM-QOPH,3NUN,3SAMEKH,3PE,3SADHE,3SHIN,3TAW,=10B78,2cx bl,3bo,3s,3au,3iu",
   "3ey,3bl ac,4ad,0PSALTER PAHLAVI a ALEPH,3BETH,3GIMEL,3DALETH,3HE,3WAW-AYIN-RESH,3ZAYIN,3HETH",
   "3YODH,3KAPH,3LAMEDH,3MEM-QOPH,3NUN,3SAMEKH,3PE,3SADHE,3SHIN,3TAW,=10B99,2fl ah,2bs fl ah",
   "2au cy b fv,5cg,=10BA9,2cx bl,3bo,3s,3au,3iu,3ey,3bl ac,=10C00,0OLD TURKIC a gv A,3gd A,4AE",
   "3gv I,3gd I,4E,3gv O,4OE,3gd OE,3gv AB,3gd AB,3gv AEB,3gd AEB,3gv AG,3gd AG,3gv AEG,3gd AEG",
   "3gv AD,3gd AD,3gv AED,4EZ,3gd EZ,3gv AY,3gd AY,3gv AEY,3gd AEY,3gv AEK,3gd AEK,3gv OEK,3gd OEK",
   "3gv AL,3gd AL,3gv AEL,4ELT,4EM,4AN,4AEN,3gd AEN,3gv ENT,3gd ENT,3gv ENC,3gd ENC,3gv ENY",
   "3gd ENY,4ANG,3gv ENG,3gd AENG,3gv EP,4OP,4IC,4EC,3gd EC,3gv AQ,3gd AQ,3gv IQ,3gd IQ,3gv OQ",
   "3gd OQ,3gv AR,3gd AR,3gv AER,4AS,4AES,4ASH,3gd ASH,3gv ESH,3gd ESH,3gv AT,3gd AT,3gv AET",
   "3gd AET,3gv OT,4BASH,=10C80,1HUNGARIAN c a A,4AA,4EB,4AMB,4EC,4ENC,4ECS,4ED,4p,4E,4CLOSE E,4EE",
   "4EF,4EG,4EGY,4EH,4I,4II,4EJ,4EK,4AK,4UNK,4EL,4ELY,4EM,4EN,4ENY,4O,4OO,4NIKOLSBURG OE",
   "4RUDIMENTA OE,4OEE,4EP,4EMP,4ER,4ev ER,4ES,4ESZ,4ET,4ENT,4ETY,4ECH,4U,4UU,4NIKOLSBURG UE",
   "4RUDIMENTA UE,4EV,4EZ,4EZS,4ENT-SHAPED h,4US,=10CC0,2d a A,4AA,4EB,4AMB,4EC,4ENC,4ECS,4ED,4p",
   "4E,4CLOSE E,4EE,4EF,4EG,4EGY,4EH,4I,4II,4EJ,4EK,4AK,4UNK,4EL,4ELY,4EM,4EN,4ENY,4O,4OO",
   "4NIKOLSBURG OE,4RUDIMENTA OE,4OEE,4EP,4EMP,4ER,4ev ER,4ES,4ESZ,4ET,4ENT,4ETY,4ECH,4U,4UU",
   "4NIKOLSBURG UE,4RUDIMENTA UE,4EV,4EZ,4EZS,4ENT-SHAPED h,4US,=10CFA,2cx bl,3ay,3iu,3hv,3bl ac",
   "4ad,0HANIFI ROHINGYA a A,3BA,3PA,3TA,3TTA,3JA,3CA,3HA,3ka,3FA,3DA,3DDA,3RA,3RRA,3ZA,3SA,3je",
   "3KA,3GA,3LA,3MA,3NA,3WA,3KINNA WA,3YA,3KINNA YA,3jd,3kb,3VA,2bn A,3I,3U,3E,3O,2ah SAKIN",
   "3NA KHONNA,2h HARBAHAY,3TAHALA,3TANA,3TASSI,=10D30,2bp dq,3bl,3bo,3s,3au,3ay,3et,3av,3ap,3ci",
   "=10D40,0GARAY bp dq,2bl,2bo,2s,2au,2ay,2et,2av,2ap,2ci,1bn h A,3I,3O,3EE,2kg ah,1SUKUN,1c a A",
   "3CA,3MA,3KA,3BA,3JA,3SA,3WA,3LA,3GA,3DA,3XA,3YA,3TA,3RA,3kb,3FA,3NA,3PA,3HA,3OLD KA,4NA,=10D69",
   "1bn h E,1eb GEMINATION ah,1ch cg i,2m cg i,1eb NASALIZATION ah,1HYPHEN,1REDUPLICATION ah",
   "1d a A,3CA,3MA,3KA,3BA,3JA,3SA,3WA,3LA,3GA,3DA,3XA,3YA,3TA,3RA,3kb,3FA,3NA,3PA,3HA,3OLD KA,4NA",
   "=10D8E,1cj h,1MINUS h,=10E60,0RUMI bp bl,2bo,2s,2au,2ay,2et,2av,2ap,2ci,1cx iu,2ey,2it,2FORTY",
   "2hv,2SIXTY,2er,2EIGHTY,2fi,2bl ac,2bo ac,2s ac,2au ac,2ay ac,2et ac,2av ac,2ap ac,2ci ac",
   "1hc bl bg,3by,3THIRD,2bo THIRDS,=10E80,0YEZIDI a ELIF,2BE,2PE,2PHE,2THE,2SE,2CIM,2CHIM,2CHHIM",
   "2HHA,2XA,2DAL,2ZAL,2RA,2RHA,2ZA,2JA,2SIN,2SHIN,2SAD,2DAD,2TA,2ZE,2EYN,2XHEYN,2FA,2VA,3ek e",
   "2QAF,2KAF,2KHAF,2GAF,2LAM,2MIM,2NUN,2UM,2WAW,2OW,2EW,2HAY,2YOT,2ET,=10EAB,1ch hi ah,2MADDA ah",
   "1HYPHENATION ah,=10EB0,1a LAM b cg i,2YOT b af i,=10EC2,0ix a DAL b bo cy jx o",
   "2TAH b bo cy jx o,2KAF b bo cy jx o,=10EFC,1ch de gr,1d hw WORD SAKTA,4QASR,4MADDA",
   "0OLD SOGDIAN a ALEPH,3q ALEPH,3BETH,3q BETH,3GIMEL,3HE,3q HE,3WAW,3ZAYIN,3HETH,3YODH,3KAPH",
   "3LAMEDH,3MEM,3NUN,3q NUN,5b n gy,3SAMEKH,3AYIN,3ek AYIN,3PE,3SADHE,3q SADHE,5b n gy",
   "3RESH-AYIN-DALETH,3SHIN,3TAW,3q TAW,5b n gy,2cx bl,3bo,3s,3au,3ay,3iu,3ey,3it,3bl ac,2hc bl bg",
   "2dr AYIN-DALETH,=10F30,0SOGDIAN a ALEPH,2BETH,2GIMEL,2HE,2WAW,2ZAYIN,2HETH,2YODH,2KAPH,2LAMEDH",
   "2MEM,2NUN,2SAMEKH,2AYIN,2PE,2SADHE,2RESH-AYIN,2SHIN,2TAW,2FETH,2LESH,1kz SHIN,1ch cg o",
   "2bo cy o,2cg i,2bo cy i,2CURVE i,3o,2aw i,3o,2eu aw o,2RESH o,2v o,1cx bl,2iu,2ey,2bl ac",
   "1be bo n BARS,5b cy,2ai b cg,2bo lh b cy,2bg ai b cg,=10F70,0OLD UYGHUR a ALEPH,3BETH",
   "3GIMEL-HETH,3WAW,3ZAYIN,3q HETH,3YODH,3KAPH,3LAMEDH,3MEM,3NUN,3SAMEKH,3PE,3SADHE,3RESH,3SHIN",
   "3TAW,3LESH,2ch cg i,4o,3bo cy i,5o,2be fe,3bo BARS,4cy,3au cy,=10FB0,0CHORASMIAN a ALEPH",
   "2d ALEPH,2BETH,2GIMEL,2DALETH,2HE,2WAW,2CURLED WAW,2ZAYIN,2HETH,2YODH,2KAPH,2LAMEDH,2MEM,2NUN",
   "2SAMEKH,2AYIN,2PE,2RESH,2SHIN,2TAW,1cx bl,2bo,2s,2au,2iu,2ey,2bl ac,=10FE0,0ELYMAIC a ALEPH",
   "2BETH,2GIMEL,2DALETH,2HE,2WAW,2ZAYIN,2HETH,2TETH,2YODH,2KAPH,2LAMEDH,2MEM,2NUN,2SAMEKH,2AYIN",
   "2PE,2SADHE,2QOPH,2RESH,2SHIN,2TAW,1dr ZAYIN-YODH"]

/-- Historic letters of South Asia. -/
def brahmicNames : List String :=
  ["=11000,0BRAHMI h cp,2bt,2dw,2JIHVAMULIYA,2UPADHMANIYA,1a A,2AA,2I,2II,2U,2UU,2bz R,3RR,3L,3LL",
   "2E,2AI,2O,2AU,2KA,2ka,2GA,2GHA,2jd,2CA,2jy,2JA,2JHA,2kb,2TTA,2ii,2DDA,2io,2NNA,2TA,2kp,2DA",
   "2DHA,2NA,2PA,2PHA,2BA,2BHA,2MA,2YA,2RA,2LA,2VA,2je,2SSA,2SA,2HA,2LLA,2OLD TAMIL LLLA,4RRA",
   "4NNNA,1bn h AA,3BHATTIPROLU AA,3I,3II,3U,3UU,3bz R,4RR,4L,4LL,3E,3AI,3O,3AU,1ej,1hh,1m hh",
   "1be cg,2m cg,2em,2CRESCENT fe,2LOTUS,=11052,1cx bl,2bo,2s,2au,2ay,2et,2av,2ap,2ci,2iu,2ey,2it",
   "2FORTY,2hv,2SIXTY,2er,2EIGHTY,2fi,2bl ac,3ad,1bp dq,2bl,2bo,2s,2au,2ay,2et,2av,2ap,2ci",
   "1h OLD TAMIL ej,1a OLD TAMIL ev E,5O,1bn h OLD TAMIL ev E,6O,1a OLD TAMIL LLA,=1107F",
   "1cx JOINER,0KAITHI h cp,2bt,2dw,1a A,2AA,2I,2II,2U,2UU,2E,2AI,2O,2AU,2KA,2ka,2GA,2GHA,2jd,2CA",
   "2jy,2JA,2JHA,2kb,2TTA,2ii,2DDA,2DDDHA,2io,2RHA,2NNA,2TA,2kp,2DA,2DHA,2NA,2PA,2PHA,2BA,2BHA,2MA",
   "2YA,2RA,2LA,2VA,2je,2SSA,2SA,2HA,1bn h AA,3I,3II,3U,3UU,3E,3AI,3O,3AU,1h ej,2jn,1ec h",
   "1ENUMERATION h,1cx h,1fl ah,1m fl ah,1hh,1m hh,1bn h bz R,=110CD,1cx h i,=110D0",
   "0SORA SOMPENG a SAH,3TAH,3BAH,3CAH,3DAH,3GAH,3MAH,3NGAH,3LAH,3NAH,3VAH,3PAH,3YAH,3RAH,3if,3KAH",
   "3JAH,3NYAH,3AH,3EEH,3IH,3UH,3OH,3EH,3MAE,=110F0,2bp dq,3bl,3bo,3s,3au,3ay,3et,3av,3ap,3ci",
   "=11100,0CHAKMA h cp,2bt,2dw,1a AA,2I,2U,2E,2KAA,2KHAA,2GAA,2GHAA,2NGAA,2CAA,2CHAA,2JAA,2JHAA",
   "2NYAA,2TTAA,2TTHAA,2DDAA,2DDHAA,2NNAA,2TAA,2THAA,2DAA,2DHAA,2NAA,2PAA,2PHAA,2BAA,2BHAA,2MAA",
   "2YYAA,2YAA,2RAA,2LAA,2WAA,2SAA,2HAA,1bn h A,3I,3II,3U,3UU,3E,3AI,3O,3AU,3OI,1O ah,1AU ah,1ej",
   "1MAAYYAA,=11136,1bp dq,2bl,2bo,2s,2au,2ay,2et,2av,2ap,2ci,1fl ah,1hh,1m hh,1en ah,1a LHAA",
   "1bn h AA,3EI,1a VAA,=11150,0MAHAJANI a A,2I,2U,2E,2O,2KA,2ka,2GA,2GHA,2CA,2jy,2JA,2JHA,2kb",
   "2TTA,2ii,2DDA,2io,2NNA,2TA,2kp,2DA,2DHA,2NA,2PA,2PHA,2BA,2BHA,2MA,2RA,2LA,2VA,2SA,2HA,2RRA",
   "1h jn,1ec h,1fl ah,1dr SHRI,=11180,0SHARADA h cp,2bt,2dw,1a A,2AA,2I,2II,2U,2UU,2bz R,3RR,3L",
   "3LL,2E,2AI,2O,2AU,2KA,2ka,2GA,2GHA,2jd,2CA,2jy,2JA,2JHA,2kb,2TTA,2ii,2DDA,2io,2NNA,2TA,2kp,2DA",
   "2DHA,2NA,2PA,2PHA,2BA,2BHA,2MA,2YA,2RA,2LA,2LLA,2VA,2je,2SSA,2SA,2HA,1bn h AA,3I,3II,3U,3UU",
   "3bz R,4RR,4L,4LL,3E,3AI,3O,3AU,1h ej,2ht,2JIHVAMULIYA,2UPADHMANIYA,1OM,1hh,1m hh,1ec h,1dj",
   "1SANDHI ah,1h jn,1bn ds ah,1EXTRA ev bn ah,1SUTRA ah,1bn h PRISHTHAMATRA E,1h bc cp,1bp dq,2bl",
   "2bo,2s,2au,2ay,2et,2av,2ap,2ci,1EKAM,1h SIDDHAM,1HEADSTROKE,1CONTINUATION h,1fl MARK-1,2MARK-2",
   "=111E1,0SINHALA hz bp bl,3bo,3s,3au,3ay,3et,3av,3ap,3ci,2cx iu,3ey,3it,3FORTY,3hv,3SIXTY,3er",
   "3EIGHTY,3fi,3bl ac,4ad,=11200,0KHOJKI a A,2AA,2I,2U,2E,2AI,2O,2AU,2KA,2ka,2GA,2GGA,2GHA,2jd",
   "2CA,2jy,2JA,2JJA,=11213,2kb,2TTA,2ii,2DDA,2io,2NNA,2TA,2kp,2DA,2DDDA,2DHA,2NA,2PA,2PHA,2BA",
   "2BBA,2BHA,2MA,2YA,2RA,2LA,2VA,2SA,2HA,2LLA,1bn h AA,3I,3II,3U,3E,3AI,3O,3AU,1h bt,2ej,2jn",
   "2SHADDA,1hh,1m hh,1WORD dj,1fl ah,1m fl ah,1ec h,1h SUKUN,1a QA,2ev I,1bn h bz R,=11280",
   "0MULTANI a A,2I,2U,2E,2KA,2ka,2GA,=11288,2GHA,=1128A,2CA,2jy,2JA,2JJA,=1128F,2kb,2TTA,2ii,2DDA",
   "2DDDA,2io,2NNA,2TA,2kp,2DA,2DHA,2NA,2PA,2PHA,2BA,=1129F,2BHA,2MA,2YA,2RA,2LA,2VA,2SA,2HA,2RRA",
   "2RHA,1fl ah,=112B0,0KHUDAWADI a A,2AA,2I,2II,2U,2UU,2E,2AI,2O,2AU,2KA,2ka,2GA,2GGA,2GHA,2jd",
   "2CA,2jy,2JA,2JJA,2JHA,2kb,2TTA,2ii,2DDA,2DDDA,2RRA,2io,2NNA,2TA,2kp,2DA,2DHA,2NA,2PA,2PHA,2BA",
   "2BBA,2BHA,2MA,2YA,2RA,2LA,2VA,2je,2SA,2HA,1h bt,1bn h AA,3I,3II,3U,3UU,3E,3AI,3O,3AU,1h jn,2ej",
   "=112F0,1bp dq,2bl,2bo,2s,2au,2ay,2et,2av,2ap,2ci,=11300,0GRANTHA h ch bt i,2cp,2bt,2dw,=11305",
   "1a A,2AA,2I,2II,2U,2UU,2bz R,3L,=1130F,2EE,2AI,=11313,2OO,2AU,2KA,2ka,2GA,2GHA,2jd,2CA,2jy,2JA",
   "2JHA,2kb,2TTA,2ii,2DDA,2io,2NNA,2TA,2kp,2DA,2DHA,2NA,=1132A,2PA,2PHA,2BA,2BHA,2MA,2YA,2RA",
   "=11332,2LA,2LLA,=11335,2VA,2je,2SSA,2SA,2HA,=1133B,0ch BINDU o,0GRANTHA h jn,2ht,1bn h AA,3I",
   "3II,3U,3UU,3bz R,4RR,=11347,3EE,3AI,=1134B,3OO,3AU,1h ej,=11350,1OM,=11357,1AU kg ah,=1135D",
   "1h PLUTA,1a VEDIC bt,3m bt,2bz RR,3LL,1bn h bz L,4LL,=11366,0ch GRANTHA bp dq,3bl,3bo,3s,3au",
   "3ay,3et,=11370,2a A,3KA,3NA,3VI,3PA,=11380,0TULU-TIGALARI a A,2AA,2I,2II,2U,2UU,2bz R,3RR,3L",
   "3LL,=1138B,2EE,=1138E,2AI,=11390,2OO,2AU,2KA,2ka,2GA,2GHA,2jd,2CA,2jy,2JA,2JHA,2kb,2TTA,2ii",
   "2DDA,2io,2NNA,2TA,2kp,2DA,2DHA,2NA,2PA,2PHA,2BA,2BHA,2MA,2YA,2RA,2LA,2VA,2je,2SSA,2SA,2HA,2LLA",
   "2RRA,2LLLA,=113B7,1h ht,1bn h AA,3I,3II,3U,3UU,3bz R,4RR,4L,4LL,=113C2,3EE,=113C5,3AI,=113C7",
   "3OO,3AU,1AU kg ah,1h lg ANUNASIKA,=113CC,2bt,2dw,2ej,2LOOPED ej,1CONJOINER,1REPHA",
   "1GEMINATION ah,1h PLUTA,1hh,1m hh,=113D7,1h OM PUSHPIKA,2SHRII PUSHPIKA,=113E1",
   "1VEDIC ew SVARITA,3ANUDATTA,=11400,0NEWA a A,2AA,2I,2II,2U,2UU,2bz R,3RR,3L,3LL,2E,2AI,2O,2AU",
   "2KA,2ka,2GA,2GHA,2jd,2NGHA,2CA,2jy,2JA,2JHA,2kb,2NYHA,2TTA,2ii,2DDA,2io,2NNA,2TA,2kp,2DA,2DHA",
   "2NA,2NHA,2PA,2PHA,2BA,2BHA,2MA,2MHA,2YA,2RA,2RHA,2LA,2LHA,2WA,2je,2SSA,2SA,2HA,1bn h AA,3I,3II",
   "3U,3UU,3bz R,4RR,4L,4LL,3E,3AI,3O,3AU,1h ej,2cp,2bt,2dw,2jn,2ht,2q bt,1OM,1SIDDHI,1hh,1m hh",
   "1ed,1GAP FILLER,1ec h,1bp dq,2bl,2bo,2s,2au,2ay,2et,2av,2ap,2ci,1m ed,1PLACEHOLDER ah,=1145D",
   "1INSERTION h,1SANDHI ah,1a VEDIC bt,1h JIHVAMULIYA,2UPADHMANIYA,=11480,0TIRHUTA ANJI,1a A,2AA",
   "2I,2II,2U,2UU,2bz R,3RR,3L,3LL,2E,2AI,2O,2AU,2KA,2ka,2GA,2GHA,2jd,2CA,2jy,2JA,2JHA,2kb,2TTA",
   "2ii,2DDA,2io,2NNA,2TA,2kp,2DA,2DHA,2NA,2PA,2PHA,2BA,2BHA,2MA,2YA,2RA,2LA,2VA,2je,2SSA,2SA,2HA",
   "1bn h AA,3I,3II,3U,3UU,3bz R,4RR,4L,4LL,3E,3ev E,3AI,3O,3ev O,3AU,1h cp,2bt,2dw,2ej,2jn,2ht",
   "1GVANG,1ec h,1OM,=114D0,1bp dq,2bl,2bo,2s,2au,2ay,2et,2av,2ap,2ci,=11580,0SIDDHAM a A,2AA,2I",
   "2II,2U,2UU,2bz R,3RR,3L,3LL,2E,2AI,2O,2AU,2KA,2ka,2GA,2GHA,2jd,2CA,2jy,2JA,2JHA,2kb,2TTA,2ii",
   "2DDA,2io,2NNA,2TA,2kp,2DA,2DHA,2NA,2PA,2PHA,2BA,2BHA,2MA,2YA,2RA,2LA,2VA,2je,2SSA,2SA,2HA",
   "1bn h AA,3I,3II,3U,3UU,3bz R,4RR,=115B8,3E,3AI,3O,3AU,1h cp,2bt,2dw,2ej,2jn,2SIDDHAM,1hh,1m hh",
   "1dj cg,2fe,1REPETITION MARK-1,2MARK-2,2MARK-3,1END OF TEXT ah",
   "1fl ah b TRIDENT p U-SHAPED ORNAMENTS,6fh CRESCENTS,4RAYS p fh CRESCENTS,7m CRESCENTS",
   "7dt CRESCENTS,3m do,5b RAYS,3b m CRESCENTS,4dt CRESCENTS,4kd CRESCENTS,4SEPTUPLE CRESCENTS",
   "4lh p RAYS,6bo ENCLOSURES,6au ENCLOSURES,1a THREE-CIRCLE ek I,2TWO-CIRCLE ek I,4II,2ek U",
   "1bn h ek U,4UU,=11600,0MODI a A,2AA,2I,2II,2U,2UU,2bz R,3RR,3L,3LL,2E,2AI,2O,2AU,2KA,2ka,2GA",
   "2GHA,2jd,2CA,2jy,2JA,2JHA,2kb,2TTA,2ii,2DDA,2io,2NNA,2TA,2kp,2DA,2DHA,2NA,2PA,2PHA,2BA,2BHA",
   "2MA,2YA,2RA,2LA,2VA,2je,2SSA,2SA,2HA,2LLA,1bn h AA,3I,3II,3U,3UU,3bz R,4RR,4L,4LL,3E,3AI,3O",
   "3AU,1h bt,2dw,2ej,2ARDHACANDRA,1hh,1m hh,1ec h,1h HUVA,=11650,1bp dq,2bl,2bo,2s,2au,2ay,2et",
   "2av,2ap,2ci,=11660,0MONGOLIAN BIRGA b cb,1cc BIRGA,1m BIRGA b cb,1dt BIRGA b cb,1BIRGA b m cb",
   "1cc BIRGA b cb,4m cb,1bc BIRGA,3b m cb,1SWIRL BIRGA,3b cb,4m cb,1bs SWIRL BIRGA b m cb,=11680",
   "0TAKRI a A,2AA,2I,2II,2U,2UU,2E,2AI,2O,2AU,2KA,2ka,2GA,2GHA,2jd,2CA,2jy,2JA,2JHA,2kb,2TTA,2ii",
   "2DDA,2io,2NNA,2TA,2kp,2DA,2DHA,2NA,2PA,2PHA,2BA,2BHA,2MA,2YA,2RA,2LA,2VA,2je,2SA,2HA,2RRA",
   "1h bt,2dw,1bn h AA,3I,3II,3U,3UU,3E,3AI,3O,3AU,1h ej,2jn,1a hz ka,1ec h,=116C0,1bp dq,2bl,2bo",
   "2s,2au,2ay,2et,2av,2ap,2ci,=116D0,0MYANMAR PAO bp dq,3bl,3bo,3s,3au,3ay,3et,3av,3ap,3ci",
   "1EASTERN PWO KAREN bp dq,5bl,5bo,5s,5au,5ay,5et,5av,5ap,5ci,=11700,0AHOM a KA,2ka,2jd,2NA,2TA",
   "2ek TA,2PA,2PHA,2BA,2MA,2JA,2jy,2kp,2RA,2LA,2SA,2kb,2HA,2A,2DA,2DHA,2GA,2ek GA,2GHA,2BHA,2JHA",
   "2ek BA,=1171D,1eb h bk LA,4RA,4LIGATING RA,1bn h A,3AA,3I,3II,3U,3UU,3E,3AW,3O,3AI,3AM",
   "1h KILLER,=11730,1bp dq,2bl,2bo,2s,2au,2ay,2et,2av,2ap,2ci,1cx iu,2ey,1h d fl,2fl,2RULAI,1y VI",
   "1a CA,2TTA,2ii,2DDA,2io,2NNA,2LLA,=11800,0DOGRA a A,2AA,2I,2II,2U,2UU,2E,2AI,2O,2AU,2KA,2ka",
   "2GA,2GHA,2jd,2CA,2jy,2JA,2JHA,2kb,2TTA,2ii,2DDA,2io,2NNA,2TA,2kp,2DA,2DHA,2NA,2PA,2PHA,2BA",
   "2BHA,2MA,2YA,2RA,2LA,2VA,2je,2SSA,2SA,2HA,2RRA,1bn h AA,3I,3II,3U,3UU,3bz R,4RR,3E,3AI,3O,3AU",
   "1h bt,2dw,2ej,2jn,1ec h,=118A0,0WARANG CITI c a NGAA,4A,4WI,4YU,4YA,4YO,4II,4UU,4E,4O,4ANG,4GA",
   "4KO,4ENY,4YUJ,4UC,4ENN,4ODD,4TTE,4NUNG,4DA,4AT,4AM,4BU,4PU,4HIYO,4HOLO,4HORR,4HAR,4SSUU,4SII",
   "4VIYO,2d a NGAA,4A,4WI,4YU,4YA,4YO,4II,4UU,4E,4O,4ANG,4GA,4KO,4ENY,4YUJ,4UC,4ENN,4ODD,4TTE",
   "4NUNG,4DA,4AT,4AM,4BU,4PU,4HIYO,4HOLO,4HORR,4HAR,4SSUU,4SII,4VIYO,2bp dq,3bl,3bo,3s,3au,3ay",
   "3et,3av,3ap,3ci,2cx iu,3ey,3it,3FORTY,3hv,3SIXTY,3er,3EIGHTY,3fi,=118FF,2OM,0DIVES AKURU a A",
   "3AA,3I,3II,3U,3UU,3E,=11909,3O,=1190C,3KA,3ka,3GA,3GHA,3jd,3CA,3jy,3JA,=11915,3kb,3TTA,=11918",
   "3DDA,3io,3NNA,3TA,3kp,3DA,3DHA,3NA,3PA,3PHA,3BA,3BHA,3MA,3YA,3YYA,3RA,3LA,3VA,3je,3SSA,3SA,3HA",
   "3LLA,3ZA,2bn h AA,4I,4II,4U,4UU,4E,=11937,4AI,4O,=1193B,2h bt,3cp,3HALANTA,2ej",
   "2PREFIXED NASAL h,2bk YA,2u RA,2bk RA,2h jn,2m hh,2GAP FILLER,2END OF TEXT ah,=11950,2bp dq",
   "3bl,3bo,3s,3au,3ay,3et,3av,3ap,3ci,=119A0,0NANDINAGARI a A,2AA,2I,2II,2U,2UU,2bz R,3RR,=119AA",
   "2E,2AI,2O,2AU,2KA,2ka,2GA,2GHA,2jd,2CA,2jy,2JA,2JHA,2kb,2TTA,2ii,2DDA,2io,2NNA,2TA,2kp,2DA",
   "2DHA,2NA,2PA,2PHA,2BA,2BHA,2MA,2YA,2RA,2LA,2VA,2je,2SSA,2SA,2HA,2LLA,2RRA,1bn h AA,3I,3II,3U",
   "3UU,3bz R,4RR,=119DA,3E,3AI,3O,3AU,1h bt,2dw,2ej,2ht,2SIDDHAM,1HEADSTROKE",
   "1bn h PRISHTHAMATRA E,=11A00,0ZANABAZAR al a A,2bn h I,4UE,4U,4E,4OE,4O,4AI,4AU,4as I,3kg ah",
   "2a KA,3ka,3GA,3GHA,3jd,3CA,3jy,3JA,3kb,3TTA,3ii,3DDA,3io,3NNA,3TA,3kp,3DA,3DHA,3NA,3PA,3PHA",
   "3BA,3BHA,3MA,3TSA,3TSHA,3DZA,3DZHA,3ZHA,3ZA,3-A,3YA,3RA,3LA,3VA,3je,3SSA,3SA,3HA,3KSSA",
   "2q eb ah,2h ej,3cp,4b cb,3lg b cb,3bt,3dw,2CLUSTER-INITIAL a RA,2CLUSTER-FINAL a YA,4RA,4LA",
   "4VA,2u HEAD ah,2CLOSING HEAD ah,2ah TSHEG,3SHAD,3m SHAD,3eu TSHEG,2u DOUBLE-LINED HEAD ah",
   "2CLOSING DOUBLE-LINED HEAD ah,2SUBJOINER,=11A50,0SOYOMBO a A,1bn h I,3UE,3U,3E,3O,3OE,3AI,3AU",
   "3bz R,4L,2kg ah,1a KA,2ka,2GA,2GHA,2jd,2CA,2jy,2JA,2JHA,2kb,2TTA,2ii,2DDA,2io,2NNA,2TA,2kp,2DA",
   "2DHA,2NA,2PA,2PHA,2BA,2BHA,2MA,2TSA,2TSHA,2DZA,2ZHA,2ZA,2-A,2YA,2RA,2LA,2VA,2je,2SSA,2SA,2HA",
   "2KSSA,1h JIHVAMULIYA,2UPADHMANIYA,1CLUSTER-INITIAL a RA,3LA,3je,3SA,1q eb h G,4K,4NG,4D,4N,4B",
   "4M,4R,4L,4SH,4S,4-A,1h bt,2dw,1GEMINATION ah,1SUBJOINER,1ah TSHEG,2SHAD,2m SHAD,2PLUTA",
   "1HEAD ah b MOON p SUN p dt FLAME,8FLAME,7,1TERMINAL MARK-1,2MARK-2,=11AB0",
   "0CANADIAN SYLLABICS NATTILIK HI,3HII,3HO,3HOO,3HA,3HAA,3SHRI,3SHRII,3SHRO,3SHROO,3SHRA,3SHRAA",
   "2SPE,2SPI,2SPO,2SPA,0PAU CIN HAU a PA,4KA,4LA,4MA,4DA,4ZA,4VA,4jd,4HA,4GA,4ka,4SA,4BA,4CA,4TA",
   "4kp,4NA,4PHA,4RA,4FA,4jy,4A,4E,4I,4O,4U,4UA,4IA,4q P,5K,5T,5M,5N,5L,5W,5NG,5Y,3RISING ew eu,5",
   "3SANDHI ga fk,3RISING ew eu q,5q,3SANDHI ga fk q,4ew eu,5,5eu q,5q,3MID-LEVEL ew,3ga fk hl",
   "3MID-LEVEL ew eu q,5q,3LOW-FALLING ew eu,5,3ga fk,3LOW-FALLING ew eu q,5q,3ga fk q,=11B00",
   "0DEVANAGARI HEAD ah,3b HEADSTROKE,1h BHALE,3b aw,2EXTENDED BHALE,4b aw",
   "2WESTERN FIVE-LIKE BHALE,3NINE-LIKE BHALE,2as NINE-LIKE BHALE,2MINDU,=11BC0,0SUNUWAR a DEVI",
   "2TASLA,2EKO,2IMAR,2REU,2UTTHI,2KIK,2MA,2APPHO,2PIP,2GIL,2HAMSO,2CARMI,2NAH,2BUR,2JYAH,2LOACHA",
   "2OTTHI,2SHYELE,2VARCA,2YAT,2AVA,2AAL,2DONGA,2THARI,2PHAR,2NGAR,2ka,2SHYER,2CHELAP,2TENTU",
   "2THELE,2KLOKO,1h PVO,=11BF0,1bp dq,2bl,2bo,2s,2au,2ay,2et,2av,2ap,2ci,=11C00,0BHAIKSUKI a A",
   "2AA,2I,2II,2U,2UU,2bz R,3RR,3L,=11C0A,2E,2AI,2O,2AU,2KA,2ka,2GA,2GHA,2jd,2CA,2jy,2JA,2JHA,2kb",
   "2TTA,2ii,2DDA,2io,2NNA,2TA,2kp,2DA,2DHA,2NA,2PA,2PHA,2BA,2BHA,2MA,2YA,2RA,2LA,2VA,2je,2SSA,2SA",
   "2HA,1bn h AA,3I,3II,3U,3UU,3bz R,4RR,4L,=11C38,3E,3AI,3O,3AU,1h cp,2bt,2dw,2ej,2ht,1hh,1m hh",
   "1WORD dj,1GAP FILLER-1,2FILLER-2,=11C50,1bp dq,2bl,2bo,2s,2au,2ay,2et,2av,2ap,2ci,1cx bl,2bo",
   "2s,2au,2ay,2et,2av,2ap,2ci,2iu,2ey,2it,2FORTY,2hv,2SIXTY,2er,2EIGHTY,2fi,1HUNDREDS UNIT ah",
   "=11C70,0MARCHEN HEAD ah,1ah SHAD,1a KA,2ka,2GA,2jd,2CA,2jy,2JA,2kb,2TA,2kp,2DA,2NA,2PA,2PHA",
   "2BA,2MA,2TSA,2TSHA,2DZA,2WA,2ZHA,2ZA,2-A,2YA,2RA,2LA,2je,2SA,2HA,2A,=11C92,1SUBJOINED a KA,3ka",
   "3GA,3jd,3CA,3jy,3JA,3kb,3TA,3kp,3DA,3NA,3PA,3PHA,3BA,3MA,3TSA,3TSHA,3DZA,3WA,3ZHA,3ZA,=11CA9",
   "3YA,3RA,3LA,3je,3SA,3HA,3A,1bn h AA,3I,3U,3E,3O,1h bt,2cp,=11D00,0MASARAM GONDI a A,3AA,3I,3II",
   "3U,3UU,3E,=11D08,3AI,3O,=11D0B,3AU,3KA,3ka,3GA,3GHA,3jd,3CA,3jy,3JA,3JHA,3kb,3TTA,3ii,3DDA,3io",
   "3NNA,3TA,3kp,3DA,3DHA,3NA,3PA,3PHA,3BA,3BHA,3MA,3YA,3RA,3LA,3VA,3je,3SSA,3SA,3HA,3LLA,3KSSA",
   "3JNYA,3TRA,2bn h AA,4I,4II,4U,4UU,4bz R,=11D3A,4E,=11D3C,4AI,4O,=11D3F,4AU,2h bt,3dw,3jn,3lg",
   "3HALANTA,2ej,2REPHA,2RA-KARA,=11D50,2bp dq,3bl,3bo,3s,3au,3ay,3et,3av,3ap,3ci,=11D60",
   "0GUNJALA GONDI a A,3AA,3I,3II,3U,3UU,=11D67,3EE,3AI,=11D6A,3OO,3AU,3YA,3VA,3BA,3BHA,3MA,3KA",
   "3ka,3TA,3kp,3LA,3GA,3GHA,3DA,3DHA,3NA,3CA,3jy,3TTA,3ii,3LLA,3JA,3JHA,3DDA,3io,3jd,3PA,3PHA,3HA",
   "3RA,3SA,2bn h AA,4I,4II,4U,4UU,=11D90,4EE,4AI,=11D93,4OO,4AU,2h bt,3dw,2ej,2OM,=11DA0,2bp dq",
   "3bl,3bo,3s,3au,3ay,3et,3av,3ap,3ci,=11EE0,0MAKASAR a KA,2GA,2jd,2PA,2BA,2MA,2TA,2DA,2NA,2CA",
   "2JA,2kb,2YA,2RA,2LA,2VA,2SA,2A,1ANGKA,1bn h I,3U,3E,3O,1PASSIMBANG,1END OF fl,=11F00",
   "0KAWI h cp,2bt,2REPHA,2dw,1a A,2AA,2I,2II,2U,2UU,2bz R,3RR,3L,3LL,2E,2AI,2O,=11F12,2KA,2ka,2GA",
   "2GHA,2jd,2CA,2jy,2JA,2JHA,2kb,2TTA,2ii,2DDA,2io,2NNA,2TA,2kp,2DA,2DHA,2NA,2PA,2PHA,2BA,2BHA",
   "2MA,2YA,2RA,2LA,2WA,2je,2SSA,2SA,2HA,2JNYA,1bn h AA,3ek AA,3I,3II,3U,3UU,3bz R,=11F3E,3E,3AI",
   "3EU,1h KILLER,1CONJOINER,1hh,1m hh,1be fl MARKER,2ek fl MARKER,2FLOWER,2km FILLER,2cg,2m cg",
   "2dt cg,2ai,2FILLED ai,2SPIRAL,2CLOSING SPIRAL,1bp dq,2bl,2bo,2s,2au,2ay,2et,2av,2ap,2ci,1h jn",
   "=11FB0,0LISU a YHA,=11FC0,0TAMIL hc bl THREE-HUNDRED-AND-TWENTIETH,3ONE-HUNDRED-AND-SIXTIETH",
   "3EIGHTIETH,3SIXTY-FOURTH,3FORTIETH,3THIRTY-SECOND,2s EIGHTIETHS,3SIXTY-FOURTHS,2bl TWENTIETH",
   "3SIXTEENTH-1,3SIXTEENTH-2,3TENTH,3hb,2s TWENTIETHS,3SIXTEENTHS,2bl FIFTH,3by,3HALF-1,3HALF-2",
   "2s gf,2DOWNSCALING FACTOR KIIZH,1h NEL,2CEVITU,2AAZHAAKKU,2UZHAKKU,2MUUVUZHAKKU,2KURUNI",
   "2PATHAKKU,2MUKKURUNI,2KAACU,2PANAM,2PON,2VARAAKAN,2PAARAM,2KUZHI,2VELI,1WET CULTIVATION h",
   "1DRY CULTIVATION h,1LAND h,1SALT PAN h,1TRADITIONAL CREDIT h,2cx h,1CURRENT h,1p ODD h",
   "1SPENT h,1TOTAL h,1IN POSSESSION h,1STARTING jk h,1h MUTHALIYA,2VAKAIYARAA,=11FFF",
   "1be END OF TEXT"]

/-- Cuneiform signs and hieroglyphs. -/
def cuneiformNames : List String :=
  ["=12000,0CUNEIFORM h A,3at A,4BAD,4GAN2 iv,4HA,4IGI,4LAGAR hn,4MUSH,4SAG,2A2,2AB,3at ASH2",
   "4DUN3 hn,4GAL,4GAN2 iv,4HA,4IGI hn,4IMIN,4LAGAB,4SHESH,4U cj U cj U,3hn,2AB2,3at BALAG",
   "4GAN2 iv,4ME cj EN,4SHA3,4TAK4,2AD,2AK,3at ERIN2,4SHITA cj GISH,2AL,3at AL,4DIM2,4GISH,4HA",
   "4KAD3,4KI,4SHE,4USH,2ALAN,2ALEPH,2AMAR,3at SHE,2AN,3da AN,3s at,3cj NAGA OPPOSING AN cj NAGA",
   "5ei,2ANSHE,2APIN,2ARAD,3at KUR,2ARKAB,2ASAL2,2ASH,3ZIDA iv,3KABA iv",
   "3da ASH TUG2 da TUG2 TUG2 da TUG2 PAP,5da ASH,7ee ASH da ASH da ASH,2ASH2,2ASHGAB,2BA,2BAD",
   "2BAG3,2BAHAR2,2BAL,3da BAL,2BALAG,2fe,2BARA2,2BI,3at A,4GAR,4IGI hn,2BU,3da BU AB,5UN,3ee BU",
   "2BULUG,3da BULUG,2BUR,2BUR2,2DA,2DAG,3KISIM5 at A cj MASH,5AMAR,5BALAG,5BI,5GA,6cj MASH,5GI",
   "5GIR2,5GUD,5HA,5IR,6cj LU,5KAK,5LA,5LU,6cj MASH2,5LUM,5NE,5PAP cj PAP,5SI,5TAK4,5U2 cj GIR2",
   "5USH,2DAM,2DAR,2DARA3,2DARA4,2DI,2DIB,2DIM,3at SHE,2DIM2,2DIN,3KASKAL U hn DISH,2DISH,2DU",
   "3da DU,3hn,3SHESHIG,2DUB,3at ESH2,2DUB2,2DUG,2DUGUD,2DUH,2DUN,2DUN3,3hn,4hn,2DUN4,2DUR2,2E",
   "3at PAP,3da E NUN da NUN,2E2,3at A cj HA cj DA,4GAR,4MI,4SAL,4SHE,4U,2EDIN,2EGIR,2EL,2EN",
   "3at GAN2,5iv,4ME,3ee EN,3OPPOSING EN,3ei,2EREN,2ERIN2,2ESH2,2EZEN,3at A,5cj LAL,7at LAL,4AN",
   "4BAD,4DUN3 hn,6hn,4HA,5hn,4IGI hn,4KASKAL,5ei,4KU3,4LA,4LAL at LAL,4LI,4LU,4U2,4UD,2GA,3hn",
   "2GA2,3at A cj DA cj HA,6HA,6IGI,4AB2 iv cj TAB,4AN,4ASH,4ASH2 cj GAL,4BAD,4fe cj RA,4BUR",
   "5cj RA,4DA,4DI,4DIM at SHE,4DUB,4EL,5cj LA,4EN,5at GAN2 iv,4GAN2 iv,4GAR,4GI,4GI4,5cj A",
   "4GIR2 cj SU,4HA cj LU cj ESH2,4HAL,5cj LA,4HI cj LI,4HUB2,4IGI hn,4ISH cj HU cj ASH,4KAK",
   "4KASKAL,4KID,5cj LAL,4KU3 cj AN,4LA,4ME cj EN,4MI,4NUN,5da NUN,4PA,4SAL,4SAR,4SHE,5cj TUR",
   "4SHID,4SUM,4TAK4,4U,4UD,5cj DU,3da GA2,2GABA,3ee GABA,2GAD,3da GAD GAR da GAR,2GAL",
   "3GAD da GAD GAR da GAR,2GALAM,2GAM,2GAN,2GAN2,3iv,3da GAN2,3ee GAN2,2GAR,2GAR3,2GASHAN",
   "2GESHTIN,3at KUR,2GI,3at E,4U,3ee GI,2GI4,3da GI4,3ee GI4,2GIDIM,2GIR2,3hn,2GIR3,3at A cj IGI",
   "4GAN2 iv,4IGI,4LU cj IGI,4PA,2GISAL,2GISH,3ee GISH,3at BAD,4TAK4,3iv,2GU,3ee GU,2GU2,3at KAK",
   "5at IGI hn,4NUN,4SAL cj TUG2,3hn,2GUD,3at A cj KUR,4KUR,3da GUD LUGAL,2GUL,2GUM,3at SHE,2GUR",
   "2GUR7,2GURUN,2GURUSH,2HA,3iv,3hn,2HAL,2HI,3at ASH,4ASH2,4BAD,4DISH,4GAD,4KIN,4NUN,4SHE,4U,2HU",
   "2HUB2,3at AN,4HAL,4KASKAL,4LISH,4UD,2HUL2,2I,3A,2IB,2IDIM,3da IDIM BUR,5ei,2IG,2IGI,3DIB,3RI",
   "3da IGI SHIR da SHIR UD da UD,3hn,2IL,3at GAN2 iv,2IL2,2IM,3at TAK4,3ee IM,3OPPOSING IM,3ei",
   "2IMIN,2IN,2IR,2ISH,2KA,3at A,4AD,5cj KU3,4ASH2,4BAD,4BALAG,4fe,4BI,4ERIN2,4ESH2,4GA,4GAL",
   "4GAN2 iv,4GAR,5cj SHA3 cj A,4GI,4GIR2,4GISH cj SAR,5ee GISH,4GU,4GUR7,4IGI,4IM,4KAK,4KI,4KID",
   "4LI,4LU,4ME,5cj DU,6GI,6TE,4MI,5cj NUNUZ,4NE,4NUN,4PI,4RU,4SA,4SAR,4je,4SHE,4SHID,4SHU,4SIG",
   "4SUHUR,4TAR,4U,4U2,4UD,4UMUM at PA,4USH,4ZI,2KA2,3ee KA2,2KAB,2KAD2,2KAD3,2KAD4,2KAD5,3da KAD5",
   "2KAK,3at IGI hn,2KAL,3at BAD,3ee KAL,2KAM2,2KAM4,2KASKAL,3LAGAB at U da LAGAB at U",
   "3da KASKAL LAGAB at U da LAGAB at U,2KESH2,2KI,3at BAD,4U,4UD,2KID,2KIN,2KISAL,2KISH,2KISIM5",
   "3da KISIM5,2KU,3da HI at ASH2 KU da HI at ASH2,2KU3,2KU4,3hl e,2KU7,2KUL,3hn,2KUN,2KUR",
   "3OPPOSING KUR,2KUSHU2,2KWU318,2LA,2LAGAB,3at A,5cj DA cj HA,6GAR,6LAL,4AL,4AN,4ASH ZIDA iv",
   "4BAD,4BI,4DAR,4EN,4GA,4GAR,4GUD,5cj GUD,4HA,4HAL,4HI at NUN,4IGI hn,4IM,5cj HA,6LU,4KI,4KIN",
   "4KU3,4KUL,5cj HI cj A,4LAGAB,4LISH,4LU,4LUL,4ME,5cj EN,4MUSH,4NE,4SHE cj SUM",
   "4SHITA cj GISH cj ERIN2,7iv,4SHU2,5cj SHU2,4SUM,4TAG,4TAK4,4TE cj A cj SU cj NA,4U,5cj A",
   "6U cj U,4U2 cj ASH,4UD,4USH,3ei,2LAGAR,3at SHE,5cj SUM,3hn,4da LAGAR hn SHE,2LAHSHU,2LAL",
   "3at LAL,2LAM,3at KUR,5cj RU,2LI,2LIL,2LIMMU2,2LISH,2LU,3at BAD,2LU2,3at AL,4BAD,4ESH2,5iv",
   "4GAN2 iv,4HI at BAD,4IM,4KAD2,4KAD3,5cj ASH,4KI,4LA cj ASH,4LAGAB,4ME cj EN,4NE,4NU,4SI cj ASH",
   "4SIK2 cj BU,4TUG2,3iv,3ee LU2,3OPPOSING LU2,3ei,3SHESHIG,2LU3,2LUGAL,3da LUGAL,3OPPOSING LUGAL",
   "3SHESHIG,2LUH,2LUL,2LUM,3da LUM,5GAR da GAR,2MA,3at TAK4,3hn,2MA2,2MAH,2MAR,2MASH,2MASH2,2ME",
   "2MES,2MI,2MIN,2MU,3da MU,2MUG,3hn,2MUNSUB,2MURGU2,2MUSH,3at A,4KUR,4ZA,3da MUSH,5at A cj NA",
   "3ee MUSH,2MUSH3,3at A,5cj DI,4DI,3hn,2NA,2NA2,2NAGA,3bc,3at SHU iv,3OPPOSING NAGA,2NAGAR",
   "2NAM NUTILLU,3,2NAM2,2NE,3at A,4UD,3SHESHIG,2NI,3at E,2NI2,2NIM,3at GAN2 iv,4GAR cj GAN2 iv",
   "2NINDA2,3at AN,4ASH,5cj ASH,4GUD,4ME cj GAN2 iv,4NE,4NUN,4SHE,5cj A AN,6ASH,7cj ASH,4U2 cj ASH",
   "4USH,2NISAG,2NU,2NU11,2NUN,3LAGAR at GAR,5MASH,5SAL,6da NUN LAGAR at SAL,5USH,3iv,3da NUN",
   "3ee NUN,5LAGAR da LAGAR,2NUNUZ,3AB2 at ASHGAB,5BI,5DUG,5GUD,5IGI hn,5KAD3,5LA,5NE,5SILA3,5U2",
   "3KISIM5 at BI,6U,2PA,2PAD,2PAN,2PAP,2PESH2,2PI,3at A,4AB,4BI,4BU,4E,4I,4IB,4U,4U2,3ee PI",
   "2PIRIG,3at KAL,4UD,4ZA,3OPPOSING PIRIG,2RA,2RAB,2RI,2RU,2SA,2SAG NUTILLU,3,3at A,4DU,4DUB,4HA",
   "4KAK,4KUR,4LUM,4MI,4NUN,4SAL,4SHID,4TAB,4U2,4UB,4UM,4UR,4USH,3da SAG,3hn,2SAL,3LAGAB at ASH2",
   "2SANGA2,2SAR,2je,2SHA3,3at A,4BAD,4GISH,4NE,4SHU2,4TUR,4U,5cj A,2SHA6,2SHAB6,2SHAR2,2SHE,3HU",
   "3da SHE GAD da GAD GAR da GAR,5TAB da TAB GAR da GAR,2SHEG9,2SHEN,2SHESH,2SHESH2,2SHESHLAM",
   "2SHID,3at A,4IM,2SHIM,3at A,4BAL,4BULUG,4DIN,4GAR,4IGI,5hn,4KUSHU2,4LUL,4MUG,4SAL,2SHINIG",
   "2SHIR,3iv,3da SHIR BUR da BUR,2SHITA,2SHU,3da bc SHU,2SHU2,2SHUBUR,2SI,3hn,2SIG,2SIG4",
   "3da SIG4 SHU2,2SIK2,2SILA3,2SU,3da SU,2SUD,2SUD2,2SUHUR,2SUM,2SUMASH,2SUR,2SUR9,2TA,3cs,3at HI",
   "4MI,3hn,2TAB,3da TAB NI da NI DISH da DISH,3ei,2TAG,3at BI,4GUD,4SHE,4SHU,4TUG2,4UD,2TAK4,2TAR",
   "2TE,3hn,2TI,3iv,2TIL,2TIR,3at TAK4,3da TIR,5GAD da GAD GAR da GAR,2TU,2TUG2,2TUK,2TUM,2TUR",
   "3da TUR ZA da ZA,2U,3GUD,3U U,3da U PA da PA GAR da GAR,5SUR da SUR,5U as da U as,2U2,2UB,2UD",
   "3KUSHU2,3at BAD,4MI,4U cj U cj U,9hn,3hn,3SHESHIG,4at BAD,2UDUG,2UM,3at LAGAB,4ME cj DA,4SHA3",
   "4U,2UMBIN,2UMUM,3at KASKAL,4PA,2UN,3hn,2UR,3ee UR,3SHESHIG,2UR2,3at A cj HA,6NA,4AL,4HA,4NUN",
   "4U2,5cj ASH,6BI,2UR4,2URI,2URI3,2URU,3at A,4ASHGAB,4fe,4DUN,4GA,4GAL,4GAN2 iv,4GAR,4GU,4HA",
   "4IGI,4IM,4ISH,4KI,4LUM,4MIN,4PA,4SHE,4SIG4,4TU,4U cj GUD,4UD,4URUDA,2URUDA,3at U,2USH,3at A",
   "4KU,4KUR,4TAK4,2USHX,2USH2,2USHUMX,2UTUKI,2UZ3,3at KASKAL,2UZU,2ZA,3iv,3ei at KUR,2ZAG,2ZAMX",
   "2ZE2,2ZI,3da ZI,2ZI3,2ZIB,3KABA iv,2ZIG,2ZIZ2,2ZU,2ZU5,3at A,2ZUBUR,2ZUM,2KAP ELAMITE",
   "2AB at NUN,2AB2 at A,2AMAR at KUG,2DAG KISIM5 at U2 cj MASH,2DAG3,2DISH cj SHU,2DUB at SHE",
   "2EZEN at GUD,4SHE,2GA2 at AN cj KAK cj A,4ASH2,2GE22,2GIG,2HUSH,2KA at ANSHE,4ASH3,4GISH,4GUD",
   "4HI at ASH2,4LUM,4PA,4SHUL,4TU,4UR2,2LAGAB at GI,2LU2 SHESHIG at BAD,3at ESH2 cj LAL,4SHU",
   "2MESH,2MUSH3 at ZA,2NA4,2NIN,2NIN9,2NINDA2 at BAL,4GI,2NU11 cc fi cu,2PESH2 cs,2PIR2",
   "2SAG at IGI hn,2TI2,2UM at ME,2U U,=12400,1NUMERIC h bo ASH,3s ASH,3au ASH,3ay ASH,3et ASH",
   "3av ASH,3ap ASH,3ci ASH,3s DISH,3au DISH,3ay DISH,3et DISH,3av DISH,3ap DISH,3ci DISH,3au U",
   "3ay U,3et U,3av U,3ap U,3ci U,3bl GESH2,3bo GESH2,3s GESH2,3au GESH2,3ay GESH2,3et GESH2",
   "3av GESH2,3ap GESH2,3ci GESH2,3bl GESHU,3bo GESHU,3s GESHU,3au GESHU,3ay GESHU,3bo SHAR2",
   "3s SHAR2,5hl e,3au SHAR2,3ay SHAR2,3et SHAR2,3av SHAR2,3ap SHAR2,3ci SHAR2,3bl SHARU,3bo SHARU",
   "3s SHARU,5hl e,3au SHARU,3ay SHARU,3SHAR2 at GAL cj DISH,7MIN,3bl BURU,3bo BURU,3s BURU,5hl e",
   "3au BURU,3ay BURU,3s hl e ESH16,6ESH21,3au hl e LIMMU,6LIMMU4,6LIMMU A,7B,3et hl e ASH9",
   "3av hl e IMIN3,6IMIN A,7B,3ap hl e USSU,6USSU3,3ci hl e ILIMMU,6ILIMMU3,6ILIMMU4,6ILIMMU A",
   "3bo ASH iv,3s ASH iv,3au ASH iv,3ay ASH iv,3et ASH iv,3bl BAN2,3bo BAN2,3s BAN2,3au BAN2,5hl e",
   "3ay BAN2,5hl e,3NIGIDAMIN,3NIGIDAESH,3bl ESHE3,3bo ESHE3,3bl THIRD DISH,3bo THIRDS DISH",
   "3ay SIXTHS DISH,3bl THIRD hl e A,3bo THIRDS hl e A,3bl hb ASH,4by ASH,3OLD ASSYRIAN bl SIXTH",
   "6by,3bl by GUR,4bg GUR,3ELAMITE bl THIRD,4bo THIRDS,4FORTY,4hv,3au U hl e,3ay U hl e",
   "3et U hl e,3av U hl e,3ap U hl e,3ci U hl e,=12470,1be h OLD ASSYRIAN WORD DIVIDER,3n ia",
   "3bu ia,4TRICOLON,4QUADCOLON,=12480,1h AB at NUN iv,4SHU2,2AD at ESH2,2BAD at DISH iv",
   "2BAHAR2 at AB2,4NI,4ZA,2BU da BU at NA2,2DA at TAK4,2DAG at KUR,2DIM at IGI,4U U U,2DIM2 at UD",
   "2DUG at ANSHE,4ASH,5AT l,4DIN,4DUN,4ERIN2,4GA,4GI,4GIR2 hn,4GISH,4HA,4HI,4IGI hn,4KASKAL,4KUR",
   "4KUSHU2,5cj KASKAL,4LAK-020,4LAM,5at KUR,4LUH cj GISH,4MASH,4MES,4MI,4NI,4PI,4SHE,4SI hn",
   "2E2 at KUR,4PAP,2ERIN2 X,2ESH2 ee ESH2,2EZEN SHESHIG at ASH,5HI,5IGI hn,5LA,5LAL,5ME,5MES,5SU",
   "3at SU,2GA2 at BAHAR2,4DIM hn,4DUG at IGI hn,6KASKAL,4EREN,4GA,4GAR cj DI,6NE,4HA cj A",
   "4KUSHU2 cj KASKAL,4LAM,5at KUR,4LUH,4MUSH,4NE,5cj E2,6GI,4SHIM,4ZIZ2,2GABA cc fi cu",
   "2GESHTIN at U,2GISH at GISH ee GISH,2GU2 at IGI hn,2GUD cj GISH at TAK4,2HA iv hn",
   "2HI at ASH da HI at ASH,2KA at BU,4KA,4U U U,4UR,2LAGAB at ZU da ZU,2LAK-003,2LAK-021,2LAK-025",
   "2LAK-030,2LAK-050,2LAK-051,2LAK-062,2LAK-079 da LAK-079 hn,2LAK-080,2LAK-081 da LAK-081",
   "2LAK-092,2LAK-130,2LAK-142,2LAK-210,2LAK-219,2LAK-220,2LAK-225,2LAK-228,2LAK-238,2LAK-265",
   "2LAK-266,2LAK-343,2LAK-347,2LAK-348,2LAK-383,2LAK-384,2LAK-390,2LAK-441,2LAK-449,3at GU,4IGI",
   "4PAP cj LU3,6PAP cj LU3,4U2 cj BA,2LAK-450,2LAK-457,2LAK-470,2LAK-483,2LAK-490,2LAK-492",
   "2LAK-493,2LAK-495,2LAK-550,2LAK-608,2LAK-617,3at ASH,4BAD,4DUN3 hn hn,4KU3,4LA,4TAR,4TE,4U2",
   "4UD,4URUDA,2LAK-636,2LAK-648,3at DUB,4GA,4IGI,5hn,4NI,4PAP cj PAP cj LU3,4SHESH cj KI,4UD",
   "4URUDA,2LAK-724,2LAK-749,2LU2 hn at ASH,3at DISH,4HAL,4PAP,5cj PAP cj LU3,4TAK4,2MI cj ZA7",
   "2MUSH da MUSH at GA,6KAK,2NINDA2 at DIM hn,4GISH,4GUL,4HI,4KESH2,4LAK-050,4MASH,4PAP cj PAP,4U",
   "5cj U,4URUDA,2SAG hn at HA,3at EN,4SHE AT l,4TAK4,2SHA6 iv,2SHE da SHE,3cj HUB2,4NAM2,4SAR",
   "2SHU2 cj DUG at NI,4E2 at AN,2SI at TAK4,2TAK4 cj SAG,2TUM at GAN2 iv,4s DISH,2UR2 bc,3at UD",
   "2URU at DARA3,4LAK-668,4LU3,2ZA7,2ZU da ZU cj SAR,2ZU5 at s DISH iv,=12F90",
   "0CYPRO-MINOAN h CM001,2CM002,2CM004,2CM005,2CM006,2CM007,2CM008,2CM009,2CM010,2CM011,2CM012",
   "2CM012B,2CM013,2CM015,2CM017,2CM019,2CM021,2CM023,2CM024,2CM025,2CM026,2CM027,2CM028,2CM029",
   "2CM030,2CM033,2CM034,2CM035,2CM036,2CM037,2CM038,2CM039,2CM040,2CM041,2CM044,2CM046,2CM047",
   "2CM049,2CM050,2CM051,2CM052,2CM053,2CM054,2CM055,2CM056,2CM058,2CM059,2CM060,2CM061,2CM062",
   "2CM063,2CM064,2CM066,2CM067,2CM068,2CM069,2CM070,2CM071,2CM072,2CM073,2CM074,2CM075,2CM075B",
   "2CM076,2CM078,2CM079,2CM080,2CM081,2CM082,2CM083,2CM084,2CM085,2CM086,2CM087,2CM088,2CM089",
   "2CM090,2CM091,2CM092,2CM094,2CM095,2CM096,2CM097,2CM098,2CM099,2CM100,2CM101,2CM102,2CM103",
   "2CM104,2CM105,2CM107,2CM108,2CM109,2CM110,2CM112,2CM114,2CM301,2CM302,=13000",
   "0EGYPTIAN HIEROGLYPH A001,2A002,2A003,2A004,2A005,2A005A,2A006,2A006A,2A006B,2A007,2A008,2A009",
   "2A010,2A011,2A012,2A013,2A014,2A014A,2A015,2A016,2A017,2A017A,2A018,2A019,2A020,2A021,2A022",
   "2A023,2A024,2A025,2A026,2A027,2A028,2A029,2A030,2A031,2A032,2A032A,2A033,2A034,2A035,2A036",
   "2A037,2A038,2A039,2A040,2A040A,2A041,2A042,2A042A,2A043,2A043A,2A044,2A045,2A045A,2A046,2A047",
   "2A048,2A049,2A050,2A051,2A052,2A053,2A054,2A055,2A056,2A057,2A058,2A059,2A060,2A061,2A062",
   "2A063,2A064,2A065,2A066,2A067,2A068,2A069,2A070,2B001,2B002,2B003,2B004,2B005,2B005A,2B006",
   "2B007,2B008,2B009,2C001,2C002,2C002A,2C002B,2C002C,2C003,2C004,2C005,2C006,2C007,2C008,2C009",
   "2C010,2C010A,2C011,2C012,2C013,2C014,2C015,2C016,2C017,2C018,2C019,2C020,2C021,2C022,2C023",
   "2C024,2D001,2D002,2D003,2D004,2D005,2D006,2D007,2D008,2D008A,2D009,2D010,2D011,2D012,2D013",
   "2D014,2D015,2D016,2D017,2D018,2D019,2D020,2D021,2D022,2D023,2D024,2D025,2D026,2D027,2D027A",
   "2D028,2D029,2D030,2D031,2D031A,2D032,2D033,2D034,2D034A,2D035,2D036,2D037,2D038,2D039,2D040",
   "2D041,2D042,2D043,2D044,2D045,2D046,2D046A,2D047,2D048,2D048A,2D049,2D050,2D050A,2D050B,2D050C",
   "2D050D,2D050E,2D050F,2D050G,2D050H,2D050I,2D051,2D052,2D052A,2D053,2D054,2D054A,2D055,2D056",
   "2D057,2D058,2D059,2D060,2D061,2D062,2D063,2D064,2D065,2D066,2D067,2D067A,2D067B,2D067C,2D067D",
   "2D067E,2D067F,2D067G,2D067H,2E001,2E002,2E003,2E004,2E005,2E006,2E007,2E008,2E008A,2E009",
   "2E009A,2E010,2E011,2E012,2E013,2E014,2E015,2E016,2E016A,2E017,2E017A,2E018,2E019,2E020,2E020A",
   "2E021,2E022,2E023,2E024,2E025,2E026,2E027,2E028,2E028A,2E029,2E030,2E031,2E032,2E033,2E034",
   "2E034A,2E036,2E037,2E038,2F001,2F001A,2F002,2F003,2F004,2F005,2F006,2F007,2F008,2F009,2F010",
   "2F011,2F012,2F013,2F013A,2F014,2F015,2F016,2F017,2F018,2F019,2F020,2F021,2F021A,2F022,2F023",
   "2F024,2F025,2F026,2F027,2F028,2F029,2F030,2F031,2F031A,2F032,2F033,2F034,2F035,2F036,2F037",
   "2F037A,2F038,2F038A,2F039,2F040,2F041,2F042,2F043,2F044,2F045,2F045A,2F046,2F046A,2F047,2F047A",
   "2F048,2F049,2F050,2F051,2F051A,2F051B,2F051C,2F052,2F053,2G001,2G002,2G003,2G004,2G005,2G006",
   "2G006A,2G007,2G007A,2G007B,2G008,2G009,2G010,2G011,2G011A,2G012,2G013,2G014,2G015,2G016,2G017",
   "2G018,2G019,2G020,2G020A,2G021,2G022,2G023,2G024,2G025,2G026,2G026A,2G027,2G028,2G029,2G030",
   "2G031,2G032,2G033,2G034,2G035,2G036,2G036A,2G037,2G037A,2G038,2G039,2G040,2G041,2G042,2G043",
   "2G043A,2G044,2G045,2G045A,2G046,2G047,2G048,2G049,2G050,2G051,2G052,2G053,2G054,2H001,2H002",
   "2H003,2H004,2H005,2H006,2H006A,2H007,2H008,2I001,2I002,2I003,2I004,2I005,2I005A,2I006,2I007",
   "2I008,2I009,2I009A,2I010,2I010A,2I011,2I011A,2I012,2I013,2I014,2I015,2K001,2K002,2K003,2K004",
   "2K005,2K006,2K007,2K008,2L001,2L002,2L002A,2L003,2L004,2L005,2L006,2L006A,2L007,2L008,2M001",
   "2M001A,2M001B,2M002,2M003,2M003A,2M004,2M005,2M006,2M007,2M008,2M009,2M010,2M010A,2M011,2M012",
   "2M012A,2M012B,2M012C,2M012D,2M012E,2M012F,2M012G,2M012H,2M013,2M014,2M015,2M015A,2M016,2M016A",
   "2M017,2M017A,2M018,2M019,2M020,2M021,2M022,2M022A,2M023,2M024,2M024A,2M025,2M026,2M027,2M028",
   "2M028A,2M029,2M030,2M031,2M031A,2M032,2M033,2M033A,2M033B,2M034,2M035,2M036,2M037,2M038,2M039",
   "2M040,2M040A,2M041,2M042,2M043,2M044,2N001,2N002,2N003,2N004,2N005,2N006,2N007,2N008,2N009",
   "2N010,2N011,2N012,2N013,2N014,2N015,2N016,2N017,2N018,2N018A,2N018B,2N019,2N020,2N021,2N022",
   "2N023,2N024,2N025,2N025A,2N026,2N027,2N028,2N029,2N030,2N031,2N032,2N033,2N033A,2N034,2N034A",
   "2N035,2N035A,2N036,2N037,2N037A,2N038,2N039,2N040,2N041,2N042,2NL001,2NL002,2NL003,2NL004",
   "2NL005,2NL005A,2NL006,2NL007,2NL008,2NL009,2NL010,2NL011,2NL012,2NL013,2NL014,2NL015,2NL016",
   "2NL017,2NL017A,2NL018,2NL019,2NL020,2NU001,2NU002,2NU003,2NU004,2NU005,2NU006,2NU007,2NU008",
   "2NU009,2NU010,2NU010A,2NU011,2NU011A,2NU012,2NU013,2NU014,2NU015,2NU016,2NU017,2NU018,2NU018A",
   "2NU019,2NU020,2NU021,2NU022,2NU022A,2O001,2O001A,2O002,2O003,2O004,2O005,2O005A,2O006,2O006A",
   "2O006B,2O006C,2O006D,2O006E,2O006F,2O007,2O008,2O009,2O010,2O010A,2O010B,2O010C,2O011,2O012",
   "2O013,2O014,2O015,2O016,2O017,2O018,2O019,2O019A,2O020,2O020A,2O021,2O022,2O023,2O024,2O024A",
   "2O025,2O025A,2O026,2O027,2O028,2O029,2O029A,2O030,2O030A,2O031,2O032,2O033,2O033A,2O034,2O035",
   "2O036,2O036A,2O036B,2O036C,2O036D,2O037,2O038,2O039,2O040,2O041,2O042,2O043,2O044,2O045,2O046",
   "2O047,2O048,2O049,2O050,2O050A,2O050B,2O051,2P001,2P001A,2P002,2P003,2P003A,2P004,2P005,2P006",
   "2P007,2P008,2P009,2P010,2P011,2Q001,2Q002,2Q003,2Q004,2Q005,2Q006,2Q007,2R001,2R002,2R002A",
   "2R003,2R003A,2R003B,2R004,2R005,2R006,2R007,2R008,2R009,2R010,2R010A,2R011,2R012,2R013,2R014",
   "2R015,2R016,2R016A,2R017,2R018,2R019,2R020,2R021,2R022,2R023,2R024,2R025,2R026,2R027,2R028",
   "2R029,2S001,2S002,2S002A,2S003,2S004,2S005,2S006,2S006A,2S007,2S008,2S009,2S010,2S011,2S012",
   "2S013,2S014,2S014A,2S014B,2S015,2S016,2S017,2S017A,2S018,2S019,2S020,2S021,2S022,2S023,2S024",
   "2S025,2S026,2S026A,2S026B,2S027,2S028,2S029,2S030,2S031,2S032,2S033,2S034,2S035,2S035A,2S036",
   "2S037,2S038,2S039,2S040,2S041,2S042,2S043,2S044,2S045,2S046,2T001,2T002,2T003,2T003A,2T004",
   "2T005,2T006,2T007,2T007A,2T008,2T008A,2T009,2T009A,2T010,2T011,2T011A,2T012,2T013,2T014,2T015",
   "2T016,2T016A,2T017,2T018,2T019,2T020,2T021,2T022,2T023,2T024,2T025,2T026,2T027,2T028,2T029",
   "2T030,2T031,2T032,2T032A,2T033,2T033A,2T034,2T035,2T036,2U001,2U002,2U003,2U004,2U005,2U006",
   "2U006A,2U006B,2U007,2U008,2U009,2U010,2U011,2U012,2U013,2U014,2U015,2U016,2U017,2U018,2U019",
   "2U020,2U021,2U022,2U023,2U023A,2U024,2U025,2U026,2U027,2U028,2U029,2U029A,2U030,2U031,2U032",
   "2U032A,2U033,2U034,2U035,2U036,2U037,2U038,2U039,2U040,2U041,2U042,2V001,2V001A,2V001B,2V001C",
   "2V001D,2V001E,2V001F,2V001G,2V001H,2V001I,2V002,2V002A,2V003,2V004,2V005,2V006,2V007,2V007A",
   "2V007B,2V008,2V009,2V010,2V011,2V011A,2V011B,2V011C,2V012,2V012A,2V012B,2V013,2V014,2V015",
   "2V016,2V017,2V018,2V019,2V020,2V020A,2V020B,2V020C,2V020D,2V020E,2V020F,2V020G,2V020H,2V020I",
   "2V020J,2V020K,2V020L,2V021,2V022,2V023,2V023A,2V024,2V025,2V026,2V027,2V028,2V028A,2V029",
   "2V029A,2V030,2V030A,2V031,2V031A,2V032,2V033,2V033A,2V034,2V035,2V036,2V037,2V037A,2V038,2V039",
   "2V040,2V040A,2W001,2W002,2W003,2W003A,2W004,2W005,2W006,2W007,2W008,2W009,2W009A,2W010,2W010A",
   "2W011,2W012,2W013,2W014,2W014A,2W015,2W016,2W017,2W017A,2W018,2W018A,2W019,2W020,2W021,2W022",
   "2W023,2W024,2W024A,2W025,2X001,2X002,2X003,2X004,2X004A,2X004B,2X005,2X006,2X006A,2X007,2X008",
   "2X008A,2Y001,2Y001A,2Y002,2Y003,2Y004,2Y005,2Y006,2Y007,2Y008,2Z001,2Z002,2Z002A,2Z002B,2Z002C",
   "2Z002D,2Z003,2Z003A,2Z003B,2Z004,2Z004A,2Z005,2Z005A,2Z006,2Z007,2Z008,2Z009,2Z010,2Z011,2Z012",
   "2Z013,2Z014,2Z015,2Z015A,2Z015B,2Z015C,2Z015D,2Z015E,2Z015F,2Z015G,2Z015H,2Z015I,2Z016,2Z016A",
   "2Z016B,2Z016C,2Z016D,2Z016E,2Z016F,2Z016G,2Z016H,2AA001,2AA002,2AA003,2AA004,2AA005,2AA006",
   "2AA007,2AA007A,2AA007B,2AA008,2AA009,2AA010,2AA011,2AA012,2AA013,2AA014,2AA015,2AA016,2AA017",
   "2AA018,2AA019,2AA020,2AA021,2AA022,2AA023,2AA024,2AA025,2AA026,2AA027,2AA028,2AA029,2AA030",
   "2AA031,2AA032,2V011D,2n JOINER,2t JOINER,2INSERT AT kr START,4di START,4kr END,4di END,2gr aa",
   "2BEGIN SEGMENT,2END SEGMENT,2INSERT AT aa,4kr,4di,2BEGIN ENCLOSURE,2END ENCLOSURE",
   "2BEGIN WALLED ENCLOSURE,2END WALLED ENCLOSURE,2MIRROR HORIZONTALLY,2hm BLANK,2bg BLANK,2LOST h",
   "2bg LOST h,2TALL LOST h,2WIDE LOST h,2ds DAMAGED AT kr START,5di START,5START,5kr END,6",
   "5di START p kr END,5START p kr,5di END,5kr START p di END,5di,5START p di,5END,5kr p END",
   "5di p END,4,=14400,0ANATOLIAN HIEROGLYPH A001,2A002,2A003,2A004,2A005,2A006,2A007,2A008,2A009",
   "2A010,2A010A,2A011,2A012,2A013,2A014,2A015,2A016,2A017,2A018,2A019,2A020,2A021,2A022,2A023",
   "2A024,2A025,2A026,2A026A,2A027,2A028,2A029,2A030,2A031,2A032,2A033,2A034,2A035,2A036,2A037",
   "2A038,2A039,2A039A,2A040,2A041,2A041A,2A042,2A043,2A044,2A045,2A045A,2A046,2A046A,2A046B,2A047",
   "2A048,2A049,2A050,2A051,2A052,2A053,2A054,2A055,2A056,2A057,2A058,2A059,2A060,2A061,2A062",
   "2A063,2A064,2A065,2A066,2A066A,2A066B,2A066C,2A067,2A068,2A069,2A070,2A071,2A072,2A073,2A074",
   "2A075,2A076,2A077,2A078,2A079,2A080,2A081,2A082,2A083,2A084,2A085,2A086,2A087,2A088,2A089",
   "2A090,2A091,2A092,2A093,2A094,2A095,2A096,2A097,2A097A,2A098,2A098A,2A099,2A100,2A100A,2A101",
   "2A101A,2A102,2A102A,2A103,2A104,2A104A,2A104B,2A104C,2A105,2A105A,2A105B,2A106,2A107,2A107A",
   "2A107B,2A107C,2A108,2A109,2A110,2A110A,2A110B,2A111,2A112,2A113,2A114,2A115,2A115A,2A116,2A117",
   "2A118,2A119,2A120,2A121,2A122,2A123,2A124,2A125,2A125A,2A126,2A127,2A128,2A129,2A130,2A131",
   "2A132,2A133,2A134,2A135,2A135A,2A136,2A137,2A138,2A139,2A140,2A141,2A142,2A143,2A144,2A145",
   "2A146,2A147,2A148,2A149,2A150,2A151,2A152,2A153,2A154,2A155,2A156,2A157,2A158,2A159,2A160",
   "2A161,2A162,2A163,2A164,2A165,2A166,2A167,2A168,2A169,2A170,2A171,2A172,2A173,2A174,2A175",
   "2A176,2A177,2A178,2A179,2A180,2A181,2A182,2A183,2A184,2A185,2A186,2A187,2A188,2A189,2A190",
   "2A191,2A192,2A193,2A194,2A195,2A196,2A197,2A198,2A199,2A200,2A201,2A202,2A202A,2A202B,2A203",
   "2A204,2A205,2A206,2A207,2A207A,2A208,2A209,2A209A,2A210,2A211,2A212,2A213,2A214,2A215,2A215A",
   "2A216,2A216A,2A217,2A218,2A219,2A220,2A221,2A222,2A223,2A224,2A225,2A226,2A227,2A227A,2A228",
   "2A229,2A230,2A231,2A232,2A233,2A234,2A235,2A236,2A237,2A238,2A239,2A240,2A241,2A242,2A243",
   "2A244,2A245,2A246,2A247,2A248,2A249,2A250,2A251,2A252,2A253,2A254,2A255,2A256,2A257,2A258",
   "2A259,2A260,2A261,2A262,2A263,2A264,2A265,2A266,2A267,2A267A,2A268,2A269,2A270,2A271,2A272",
   "2A273,2A274,2A275,2A276,2A277,2A278,2A279,2A280,2A281,2A282,2A283,2A284,2A285,2A286,2A287",
   "2A288,2A289,2A289A,2A290,2A291,2A292,2A293,2A294,2A294A,2A295,2A296,2A297,2A298,2A299,2A299A",
   "2A300,2A301,2A302,2A303,2A304,2A305,2A306,2A307,2A308,2A309,2A309A,2A310,2A311,2A312,2A313",
   "2A314,2A315,2A316,2A317,2A318,2A319,2A320,2A321,2A322,2A323,2A324,2A325,2A326,2A327,2A328",
   "2A329,2A329A,2A330,2A331,2A332A,2A332B,2A332C,2A333,2A334,2A335,2A336,2A336A,2A336B,2A336C",
   "2A337,2A338,2A339,2A340,2A341,2A342,2A343,2A344,2A345,2A346,2A347,2A348,2A349,2A350,2A351",
   "2A352,2A353,2A354,2A355,2A356,2A357,2A358,2A359,2A359A,2A360,2A361,2A362,2A363,2A364,2A364A",
   "2A365,2A366,2A367,2A368,2A368A,2A369,2A370,2A371,2A371A,2A372,2A373,2A374,2A375,2A376,2A377",
   "2A378,2A379,2A380,2A381,2A381A,2A382,2A383 RA OR RI,2A383A,2A384,2A385,2A386,2A386A,2A387",
   "2A388,2A389,2A390,2A391,2A392,2A393 ap,2A394,2A395,2A396,2A397,2A398,2A399,2A400,2A401,2A402",
   "2A403,2A404,2A405,2A406,2A407,2A408,2A409,2A410 BEGIN LOGOGRAM ah,2A410A END LOGOGRAM ah,2A411",
   "2A412,2A413,2A414,2A415,2A416,2A417,2A418,2A419,2A420,2A421,2A422,2A423,2A424,2A425,2A426",
   "2A427,2A428,2A429,2A430,2A431,2A432,2A433,2A434,2A435,2A436,2A437,2A438,2A439,2A440,2A441",
   "2A442,2A443,2A444,2A445,2A446,2A447,2A448,2A449,2A450,2A450A,2A451,2A452,2A453,2A454,2A455",
   "2A456,2A457,2A457A,2A458,2A459,2A460,2A461,2A462,2A463,2A464,2A465,2A466,2A467,2A468,2A469",
   "2A470,2A471,2A472,2A473,2A474,2A475,2A476,2A477,2A478,2A479,2A480,2A481,2A482,2A483,2A484",
   "2A485,2A486,2A487,2A488,2A489,2A490,2A491,2A492,2A493,2A494,2A495,2A496,2A497,2A501,2A502",
   "2A503,2A504,2A505,2A506,2A507,2A508,2A509,2A510,2A511,2A512,2A513,2A514,2A515,2A516,2A517",
   "2A518,2A519,2A520,2A521,2A522,2A523,2A524,2A525,2A526,2A527,2A528,2A529,2A530"]

/-- African, Tangut and Japanese signs. -/
def largeScriptNames : List String :=
  ["=16100,0GURUNG KHEMA a A,3KA,3ka,3GA,3GHA,3jd,3CA,3jy,3JA,3JHA,3HA,3TTA,3ii,3DDA,3io,3VA,3TA",
   "3kp,3DA,3DHA,3NA,3PA,3PHA,3BA,3BHA,3MA,3YA,3RA,3LA,3SA,2bn h AA,4I,4II,4U,4UU,4E,4EE,4AI,4O",
   "4OO,4AU,3kg ah,2eb h bk YA,5VA,5HA,2h bt,2eb h bk RA,2h THOLHOMA,2bp dq,3bl,3bo,3s,3au,3ay,3et",
   "3av,3ap,3ci,=16800,0BAMUM a PHASE-A NGKUE MFON,3GBIEE FON,3PON MFON PIPAEMGBIEE,5PIPAEMBA",
   "3NAA MFON,3SHUENSHUET,3TITA MFON,3NZA MFON,3SHINDA PA NJI,3PON PA NJI PIPAEMGBIEE,6PIPAEMBA",
   "3MAEMBGBIEE,3TU MAEMBA,3NGANGU,3MAEMVEUX,3MANSUAE,3MVEUAENGAM,3SEUNYAM,3NTOQPEN,3KEUKEUTNDA",
   "3NKINDI,3SUU,3NGKUENZEUM,3LAPAQ,3LET KUT,3NTAP MFAA,3MAEKEUP,3PASHAE,3GHEUAERAE,3PAMSHAE",
   "3MON NGGEUAET,3NZUN MEUT,3U YUQ NAE,3GHEUAEGHEUAE,3NTAP NTAA,3SISA,3MGBASA,3MEUNJOMNDEUQ",
   "3MOOMPUQ,3KAFA,3PA LEERAEWA,3NDA LEERAEWA,3PET,3MAEMKPEN,3NIKA,3PUP,3TUAEP,3LUAEP,3SONJAM",
   "3TEUTEUWEN,3MAENYI,3KET,3NDAANGGEUAET,3KUOQ,3MOOMEUT,3SHUM,3LOMMAE,3FIRI,3ROM,3KPOQ,3SOQ",
   "3MAP PIEET,3SHIRAE,3NTAP,3SHOQ NSHUT YUM,3NYIT MONGKEUAEQ,3PAARAE,3NKAARAE,3UNKNOWN,3NGGEN",
   "3MAESI,3NJAM,3MBANYI,3NYET,3TEUAEN,3SOT,3PAAM,3NSHIEE,3MAEM,3NYI,3KAQ,3NSHA,3VEE,3LU,3NEN,3NAQ",
   "3MBAQ,2PHASE-B NSHUET,3TU MAEMGBIEE,3SIEE,3SET TU,3LOM NTEUM,3MBA MAELEE,3KIEEM,3YEURAE",
   "3MBAARAE,3KAM,3PEESHI,3YAFU LEERAEWA,3LAM NSHUT NYAM,3NTIEE SHEUOQ,3NDU NJAA,3GHEUGHEUAEM,3PIT",
   "3TU NSIEE,3SHET NJAQ,3SHEUAEQTU,3MFON TEUAEQ,3MBIT MBAAKET,3NYI NTEUM,3KEUPUQ,3GHEUGHEN",
   "3KEUYEUX,3LAANAE,3PARUM,3VEUM,3NGKINDI MVOP,3NGGEU MBU,3WUAET,3SAKEUAE,3TAAM,3MEUQ,3NGGUOQ,4dg",
   "3MFIYAQ,3SUE,3MBEURI,3MONTIEEN,3NYAEMAE,3PUNGAAM,3MEUT NGGEET,3FEUX,3MBUOQ,3FEE,3KEUAEM",
   "3MA NJEUAENA,4NJUQA,3LET,3NGGAAM,3NSEN,3MA,3KIQ,3NGOM,2PHASE-C NGKUE MAEMBA,3NZA,3YUM",
   "3WANGKUOQ,3NGGEN,3NDEUAEREE,3NGKAQ,3GHARAE,3MBEEKEET,3GBAYI,3NYIR MKPARAQ MEUN,3NTU MBIT",
   "3MBEUM,3PIRIEEN,3NDOMBU,3MBAA CABBAGE-TREE,3KEUSHEUAEP,3GHAP,3KEUKAQ,3YU MUOMAE,3NZEUM,3MBUE",
   "3NSEUAEN,3MBIT,3YEUQ,3KPARAQ,3KAA,3SEUX,3NDIDA,3TAASHAE,3NJUEQ,3TITA YUE,3SUAET,3NGGUAEN NYAM",
   "3VEUX,3NANSANAQ,3MA KEUAERI,3NTAA,3NGGUON,3LAP,3MBIRIEEN,3MGBASAQ,3NTEUNGBA,3TEUTEUX,3NGGUM",
   "3FUE,3NDEUT,3NSA,3NSHAQ,3BUNG,3VEUAEPEN,3MBERAE,3RU,3NJAEM,3LAM,3TITUAEP,3NSUOT NGOM,3NJEEEE",
   "3KET,3NGGU,3MAESI,3MBUAEM,3LU,3KUT,3NJAM,3NGOM,3WUP,3NGGUEET,3NSOM,3NTEN,3KUOP NKAARAE,3NSUN",
   "3NDAM,3MA NSIEE,3YAA,3NDAP,3SHUEQ,3SETFON,3MBI,3MAEMBA,3MBANYI,3KEUSEUX,3MBEUX,3KEUM",
   "3MBAA PICKET,3YUWOQ,3NJEUX,3MIEE,3MUAE,3SHIQ,3KEN LAW,4FATIGUE,3NGAQ,3NAQ,3LIQ,3PIN,3PEN,3TET",
   "2PHASE-D MBUO,3WAP,3NJI,3MFON,3NJIEE,3LIEE,3NJEUT,3NSHEE,3NGGAAMAE,3NYAM,3WUAEN,3NGKUN,3SHEE",
   "3NGKAP,3KEUAETMEUN,3TEUT,3SHEUAE,3NJAP,3SUE,3KET,3YAEMMAE,3KUOM,3SAP,3MFEUT,3NDEUX,3MALEERI",
   "3MEUT,3SEUAEQ,3YEN,3NJEUAEM,3KEUOT MBUAE,3NGKEURI,3TU,3GHAA,3NGKYEE,3FEUFEUAET,3NDEE,3MGBOFUM",
   "3LEUAEP,3NDON,3MONI,3MGBEUN,3PUUT,3MGBIEE,3MFO,3LUM,3NSIEEP,3MBAA,3KWAET,3NYET,3TEUAEN,3SOT",
   "3YUWOQ,3KEUM,3RAEM,3TEEEE,3NGKEUAEQ,3MFEUAE,3NSIEET,3KEUP,3PIP,3PEUTAE,3NYUE,3LET,3NGGAAM",
   "3MFIEE,3NGGWAEN,3YUOM,3PAP,3YUOP,3NDAM,3NTEUM,3SUAE,3KUN,3NGGEUX,3NGKIEE,3TUOT,3MEUN,3KUQ",
   "3NSUM,3TEUN,3MAENJET,3NGGAP,3LEUM,3NGGUOM,3NSHUT,3NJUEQ,3GHEUAE,3KU,3REN OLD,3TAE,3TOQ,3NYI",
   "3RII,3LEEEE,3MEEEE,3M,3SUU,3MU,3SHII,3SHEUX,3KYEE,3NU,3SHU,3NTEE,3PEE,3NI,3SHOQ,3PUQ,3MVOP",
   "3LOQ,3REN MUCH,3TI,3NTUU,3MBAA av,3SAQ,3FAA,2PHASE-E NDAP,3TOON,3MBEUM,3LAP,3VOM,3LOON,3PAA",
   "3SOM,3RAQ,3NSHUOP,3NDUN,3PUAE,3TAM,3NGKA,3KPEUX,3WUO,3SEE,3NGGEUAET,3PAAM,3TOO,3KUOP,3LOM",
   "3NSHIEE,3NGOP,3MAEM,3NGKEUX,3NGOQ,3NSHUE,3RIMGBA,3NJEUX,3PEEM,3SAA,3NGGURAE,3MGBA,3GHEUX",
   "3NGKEUAEM,3NJAEMLI,3MAP,3LOOT,3NGGEEEE,3NDIQ,3TAEN NTEUM,3SET,3PUM,3NDAA SOFTNESS",
   "3NGGUAESHAE NYAM,3YIEE,3GHEUN,3TUAE,3YEUAE,3PO,3TUMAE,3KEUAE,3SUAEN,3TEUAEQ,3VEUAE,3WEUX,3LAAM",
   "3PU,3TAAQ,3GHAAMAE,3NGEUREUT,3SHEUAEQ,3MGBEN,3MBEE,3NZAQ,3NKOM,3GBET,3TUM,3KUET,3YAP",
   "3NYI CLEAVER,3YIT,3MFEUQ,3NDIAQ,3PIEEQ,3YUEQ,3LEUAEM,3FUE,3GBEUX,3NGKUP,3KET,3MAE,3NGKAAMI",
   "3GHET,3FA,3NTUM,3PEUT,3YEUM,3NGGEUAE,3NYI iy,3NZUQ,3POON,3MIEE,3FUET,3NAE,3MUAE,3GHEUAE,3FU I",
   "3MVI,3PUAQ,3NGKUM,3KUT,3PIET,3NTAP,3YEUAET,3NGGUP,3PA PEOPLE,3FU CALL,3FOM,3NJEE,3A,3TOQ,3O,3I",
   "3LAQ,3PA PLURAL,3TAA,3TAQ,3NDAA MY HOUSE,3SHIQ,3YEUX,3NGUAE,3YUAEN,3YOQ SWIMMING,4COVER,3YUQ",
   "3YUN,3KEUX,3PEUX,3NJEE EPOCH,3PUE,3WUE,3FEE,3VEE,3LU,3MI,3REUX,3RAE,3NGUAET,3jd,3SHO,3SHOQ",
   "3FU REMEDY,3NA,3PI,3LOQ,3KO,3MEN,3MA,3MAQ,3TEU,3KI,3MON,3iu,3FAQ,3GHOM,2PHASE-F KA,3U,3KU,3EE",
   "3REE,3TAE,3NYI,3LA,3RII,3RIEE,3MEEEE,3TAA,3NDAA,3NJAEM,3M,3SUU,3SHII,3SI,3SEUX,3KYEE,3KET",
   "3NUAE,3NU,3NJUAE,3YOQ,3SHU,3YA,3NSHA,3PEUX,3NTEE,3WUE,3PEE,3RU,3NI,3REUX,3KEN,3NGKWAEN,3NGGA",
   "3SHO,3PUAE,3FOM,3WA,3LI,3LOQ,3KO,3MBEN,3REN,3MA,3MO,3MBAA,3TET,3KPA,3SAMBA,3VUEQ,=16A40",
   "0MRO a TA,2NGI,2YO,2MIM,2BA,2DA,2A,2PHI,2KHAI,2HAO,2DAI,2CHU,2KEAAE,2OL,2MAEM,2NIN,2PA,2OO,2O",
   "2RO,2SHI,2THEA,2EA,2WA,2E,2KO,2LAN,2LA,2HAI,2RI,2TEK,=16A60,1bp dq,2bl,2bo,2s,2au,2ay,2et,2av",
   "2ap,2ci,=16A6E,1hh,1m hh,0TANGSA a OZ,2OC,2OQ,2OX,2AZ,2AC,2AQ,2AX,2VZ,2VC,2VQ,2VX,2EZ,2EC,2EQ",
   "2EX,2IZ,2IC,2IQ,2IX,2UZ,2UC,2UQ,2UX,2AWZ,2AWC,2AWQ,2AWX,2UIZ,2UIC,2UIQ,2UIX,2q NG,2eu UEX",
   "2ev UEZ,3AWX,2UEC,2UEZ,2UEQ,2UEX,2UIUZ,2UIUC,2UIUQ,2UIUX,2MZ,2MC,2MQ,2MX,2KA,2ka,2GA,2jd,2SA",
   "2YA,2WA,2PA,2kb,2PHA,2BA,2MA,2NA,2HA,2LA,2HTA,2TA,2DA,2RA,2NHA,2je,2CA,2TSA,2GHA,2HTTA,2kp,2XA",
   "2FA,2DHA,2jy,2ZA,=16AC0,1bp dq,2bl,2bo,2s,2au,2ay,2et,2av,2ap,2ci,=16AD0,0BASSA VAH a ENNI,3KA",
   "3SE,3FA,3MBE,3YIE,3GAH,3DHII,3KPAH,3JO,3HWAH,3WA,3ZO,3GBU,3DO,3CE,3UWU,3TO,3BA,3VU,3YEIN,3PA",
   "3WADDA,3A,3O,3OO,3U,3EE,3E,3I,=16AF0,2ch fb ew,3hw ew,3MID ew,3LOW-MID ew,3HIGH-LOW ew,2hm fk",
   "=16B00,0PAHAWH HMONG bn KEEB,3KEEV,3KIB,3KIV,3KAUB,3KAUV,3KUB,3KUV,3KEB,3KEV,3KAIB,3KAIV,3KOOB",
   "3KOOV,3KAWB,3KAWV,3KUAB,3KUAV,3KOB,3KOV,3KIAB,3KIAV,3KAB,3KAV,3KWB,3KWV,3KAAB,3KAAV,2eb VAU",
   "3NTSAU,3LAU,3HAU,3NLAU,3RAU,3NKAU,3QHAU,3YAU,3HLAU,3MAU,3CHAU,3NCHAU,3HNAU,3PLHAU,3NTHAU,3NAU",
   "3AU,3XAU,3CAU,2ah CIM TUB,4SO,4KES,4KHAV,4SUAM,4HOM,4TAUM,2h VOS THOM,4TSHAB CEEB,3CIM CHEEM",
   "3VOS THIAB,4FEEM,3XYEEM NTXIV,4RHO,4TOV,4FAIB,3VOS SEEV,3MEEJ SUAB,3VOS NRUA,3IB YAM,3XAUS",
   "3CIM TSOV ROG,=16B50,2bp dq,3bl,3bo,3s,3au,3ay,3et,3av,3ap,3ci,=16B5B,2cx TENS,3HUNDREDS",
   "3iu THOUSANDS,3MILLIONS,3ac MILLIONS,3iu BILLIONS,3TRILLIONS,=16B63,2h VOS LUB,3XYOO,3HLI",
   "3THIRD-STAGE HLI,3ZWJ THAJ,3HNUB,3NQIG,3XIAB,3NTUJ,3AV,3TXHEEJ CEEV,3MEEJ TSEEB,3TAU,3LOS,3MUS",
   "3CIM HAIS LUS NTOG NTOG,4CUAM TSHOOJ,4TXWV,5CHWV,4PUB DAWB,4NRES TOS,=16B7D,2CLAN h TSHEEJ",
   "4YEEG,4LIS,4LAUJ,4XYOOJ,4KOO,4HAWJ,4MUAS,4THOJ,4TSAB,4PHAB,4KHAB,4HAM,4VAJ,4FAJ,4YAJ,4TSWB",
   "4KWM,4VWJ,=16D40,0KIRAT RAI h bt,3TONPI,3dw,2a A,3KA,3ka,3GA,3GHA,3jd,3CA,3jy,3JA,3JHA,3kb",
   "3TTA,3ii,3DDA,3io,3TA,3kp,3DA,3DHA,3NA,3PA,3PHA,3BA,3BHA,3MA,3YA,3RA,3LA,3VA,3SA,3je,3HA",
   "2bn h AA,4I,4U,4UE,4E,4AI,4O,4AU,2h ej,3SAAT,3YUPI,2hh,2m hh,2bp dq,3bl,3bo,3s,3au,3ay,3et,3av",
   "3ap,3ci,=16E40,0MEDEFAIDRIN c a M,3S,3V,3W,3ATIU,3Z,3KP,3P,3T,3G,3F,3I,3K,3A,3J,3E,3B,3C,3U",
   "3YU,3L,3Q,3HP,3NY,3X,3D,3OE,3N,3R,3O,3AI,3Y,1d a M,3S,3V,3W,3ATIU,3Z,3KP,3P,3T,3G,3F,3I,3K,3A",
   "3J,3E,3B,3C,3U,3YU,3L,3Q,3HP,3NY,3X,3D,3OE,3N,3R,3O,3AI,3Y,1bp dq,2bl,2bo,2s,2au,2ay,2et,2av",
   "2ap,2ci,1cx iu,2ELEVEN,2TWELVE,2THIRTEEN,2FOURTEEN,2FIFTEEN,2SIXTEEN,2SEVENTEEN,2EIGHTEEN",
   "2NINETEEN,1bp bl ek e,2bo ek e,2s ek e,1ed,1hm fk,1y AIVA,1dd OH,=16F00,0MIAO a PA,2BA,2YI PA",
   "2PLA,2MA,2MHA,2hz MA,2FA,2VA,2VFA,2TA,2DA,2YI TTA,3TA,2TTA,2DDA,2NA,2NHA,2YI NNA,2hz NA,2NNA",
   "2NNHA,2LA,2LYA,2LHA,2LHYA,2TLHA,2DLHA,2TLHYA,2DLHYA,2KA,2GA,2YI KA,2QA,2QGA,2jd,2NGHA,2hz jd",
   "2HA,2XA,2GHA,2GHHA,2TSSA,2DZZA,2kb,2NYHA,2TSHA,2DZHA,2YI TSHA,3DZHA,2REFORMED TSHA,2je,2SSA",
   "2ZHA,2ZSHA,2TSA,2DZA,2YI TSA,2SA,2ZA,2ZSA,2ZZA,2ZZSA,2hz ZZA,2ZZYA,2ZZSYA,2WA,2AH,2HHA,2BRI",
   "2SYI,2DZYI,2TE,2TSE,2RTE,=16F4F,1h eb ds fe,1a NASALIZATION,1h ASPIRATION,2REFORMED VOICING",
   "3ASPIRATION,1bn h A,3AA,3AHH,3AN,3ANG,3O,3OO,3WO,3W,3E,3EN,3ENG,3OEY,3I,3IA,3IAN,3IANG,3IO,3IE",
   "3II,3IU,3ING,3U,3UA,3UAN,3UANG,3UU,3UEI,3UNG,3Y,3YI,3AE,3AEE,3ERR,3ROUNDED ERR,3ER,3ROUNDED ER",
   "3AI,3EI,3AU,3OU,3N,3NG,3UOG,3YUI,3OG,3OER,3VW,3IG,3EA,3IONG,3UI,=16F8F,1ew g,2kr g,2i,2o",
   "1a TONE-2,2TONE-3,2TONE-4,2TONE-5,2TONE-6,2TONE-7,2TONE-8,2REFORMED TONE-1,3TONE-2,3TONE-4",
   "3TONE-5,3TONE-6,3TONE-8,=16FE0,0TANGUT la ah,0NUSHU la ah,0OLD CHINESE aw ah,2la ah",
   "0KHITAN d ic FILLER,=16FF0,0VIETNAMESE ek READING ah CA,4NHAY,=18800,0TANGUT COMPONENT-001",
   "1COMPONENT-002,1COMPONENT-003,1COMPONENT-004,1COMPONENT-005,1COMPONENT-006,1COMPONENT-007",
   "1COMPONENT-008,1COMPONENT-009,1COMPONENT-010,1COMPONENT-011,1COMPONENT-012,1COMPONENT-013",
   "1COMPONENT-014,1COMPONENT-015,1COMPONENT-016,1COMPONENT-017,1COMPONENT-018,1COMPONENT-019",
   "1COMPONENT-020,1COMPONENT-021,1COMPONENT-022,1COMPONENT-023,1COMPONENT-024,1COMPONENT-025",
   "1COMPONENT-026,1COMPONENT-027,1COMPONENT-028,1COMPONENT-029,1COMPONENT-030,1COMPONENT-031",
   "1COMPONENT-032,1COMPONENT-033,1COMPONENT-034,1COMPONENT-035,1COMPONENT-036,1COMPONENT-037",
   "1COMPONENT-038,1COMPONENT-039,1COMPONENT-040,1COMPONENT-041,1COMPONENT-042,1COMPONENT-043",
   "1COMPONENT-044,1COMPONENT-045,1COMPONENT-046,1COMPONENT-047,1COMPONENT-048,1COMPONENT-049",
   "1COMPONENT-050,1COMPONENT-051,1COMPONENT-052,1COMPONENT-053,1COMPONENT-054,1COMPONENT-055",
   "1COMPONENT-056,1COMPONENT-057,1COMPONENT-058,1COMPONENT-059,1COMPONENT-060,1COMPONENT-061",
   "1COMPONENT-062,1COMPONENT-063,1COMPONENT-064,1COMPONENT-065,1COMPONENT-066,1COMPONENT-067",
   "1COMPONENT-068,1COMPONENT-069,1COMPONENT-070,1COMPONENT-071,1COMPONENT-072,1COMPONENT-073",
   "1COMPONENT-074,1COMPONENT-075,1COMPONENT-076,1COMPONENT-077,1COMPONENT-078,1COMPONENT-079",
   "1COMPONENT-080,1COMPONENT-081,1COMPONENT-082,1COMPONENT-083,1COMPONENT-084,1COMPONENT-085",
   "1COMPONENT-086,1COMPONENT-087,1COMPONENT-088,1COMPONENT-089,1COMPONENT-090,1COMPONENT-091",
   "1COMPONENT-092,1COMPONENT-093,1COMPONENT-094,1COMPONENT-095,1COMPONENT-096,1COMPONENT-097",
   "1COMPONENT-098,1COMPONENT-099,1COMPONENT-100,1COMPONENT-101,1COMPONENT-102,1COMPONENT-103",
   "1COMPONENT-104,1COMPONENT-105,1COMPONENT-106,1COMPONENT-107,1COMPONENT-108,1COMPONENT-109",
   "1COMPONENT-110,1COMPONENT-111,1COMPONENT-112,1COMPONENT-113,1COMPONENT-114,1COMPONENT-115",
   "1COMPONENT-116,1COMPONENT-117,1COMPONENT-118,1COMPONENT-119,1COMPONENT-120,1COMPONENT-121",
   "1COMPONENT-122,1COMPONENT-123,1COMPONENT-124,1COMPONENT-125,1COMPONENT-126,1COMPONENT-127",
   "1COMPONENT-128,1COMPONENT-129,1COMPONENT-130,1COMPONENT-131,1COMPONENT-132,1COMPONENT-133",
   "1COMPONENT-134,1COMPONENT-135,1COMPONENT-136,1COMPONENT-137,1COMPONENT-138,1COMPONENT-139",
   "1COMPONENT-140,1COMPONENT-141,1COMPONENT-142,1COMPONENT-143,1COMPONENT-144,1COMPONENT-145",
   "1COMPONENT-146,1COMPONENT-147,1COMPONENT-148,1COMPONENT-149,1COMPONENT-150,1COMPONENT-151",
   "1COMPONENT-152,1COMPONENT-153,1COMPONENT-154,1COMPONENT-155,1COMPONENT-156,1COMPONENT-157",
   "1COMPONENT-158,1COMPONENT-159,1COMPONENT-160,1COMPONENT-161,1COMPONENT-162,1COMPONENT-163",
   "1COMPONENT-164,1COMPONENT-165,1COMPONENT-166,1COMPONENT-167,1COMPONENT-168,1COMPONENT-169",
   "1COMPONENT-170,1COMPONENT-171,1COMPONENT-172,1COMPONENT-173,1COMPONENT-174,1COMPONENT-175",
   "1COMPONENT-176,1COMPONENT-177,1COMPONENT-178,1COMPONENT-179,1COMPONENT-180,1COMPONENT-181",
   "1COMPONENT-182,1COMPONENT-183,1COMPONENT-184,1COMPONENT-185,1COMPONENT-186,1COMPONENT-187",
   "1COMPONENT-188,1COMPONENT-189,1COMPONENT-190,1COMPONENT-191,1COMPONENT-192,1COMPONENT-193",
   "1COMPONENT-194,1COMPONENT-195,1COMPONENT-196,1COMPONENT-197,1COMPONENT-198,1COMPONENT-199",
   "1COMPONENT-200,1COMPONENT-201,1COMPONENT-202,1COMPONENT-203,1COMPONENT-204,1COMPONENT-205",
   "1COMPONENT-206,1COMPONENT-207,1COMPONENT-208,1COMPONENT-209,1COMPONENT-210,1COMPONENT-211",
   "1COMPONENT-212,1COMPONENT-213,1COMPONENT-214,1COMPONENT-215,1COMPONENT-216,1COMPONENT-217",
   "1COMPONENT-218,1COMPONENT-219,1COMPONENT-220,1COMPONENT-221,1COMPONENT-222,1COMPONENT-223",
   "1COMPONENT-224,1COMPONENT-225,1COMPONENT-226,1COMPONENT-227,1COMPONENT-228,1COMPONENT-229",
   "1COMPONENT-230,1COMPONENT-231,1COMPONENT-232,1COMPONENT-233,1COMPONENT-234,1COMPONENT-235",
   "1COMPONENT-236,1COMPONENT-237,1COMPONENT-238,1COMPONENT-239,1COMPONENT-240,1COMPONENT-241",
   "1COMPONENT-242,1COMPONENT-243,1COMPONENT-244,1COMPONENT-245,1COMPONENT-246,1COMPONENT-247",
   "1COMPONENT-248,1COMPONENT-249,1COMPONENT-250,1COMPONENT-251,1COMPONENT-252,1COMPONENT-253",
   "1COMPONENT-254,1COMPONENT-255,1COMPONENT-256,1COMPONENT-257,1COMPONENT-258,1COMPONENT-259",
   "1COMPONENT-260,1COMPONENT-261,1COMPONENT-262,1COMPONENT-263,1COMPONENT-264,1COMPONENT-265",
   "1COMPONENT-266,1COMPONENT-267,1COMPONENT-268,1COMPONENT-269,1COMPONENT-270,1COMPONENT-271",
   "1COMPONENT-272,1COMPONENT-273,1COMPONENT-274,1COMPONENT-275,1COMPONENT-276,1COMPONENT-277",
   "1COMPONENT-278,1COMPONENT-279,1COMPONENT-280,1COMPONENT-281,1COMPONENT-282,1COMPONENT-283",
   "1COMPONENT-284,1COMPONENT-285,1COMPONENT-286,1COMPONENT-287,1COMPONENT-288,1COMPONENT-289",
   "1COMPONENT-290,1COMPONENT-291,1COMPONENT-292,1COMPONENT-293,1COMPONENT-294,1COMPONENT-295",
   "1COMPONENT-296,1COMPONENT-297,1COMPONENT-298,1COMPONENT-299,1COMPONENT-300,1COMPONENT-301",
   "1COMPONENT-302,1COMPONENT-303,1COMPONENT-304,1COMPONENT-305,1COMPONENT-306,1COMPONENT-307",
   "1COMPONENT-308,1COMPONENT-309,1COMPONENT-310,1COMPONENT-311,1COMPONENT-312,1COMPONENT-313",
   "1COMPONENT-314,1COMPONENT-315,1COMPONENT-316,1COMPONENT-317,1COMPONENT-318,1COMPONENT-319",
   "1COMPONENT-320,1COMPONENT-321,1COMPONENT-322,1COMPONENT-323,1COMPONENT-324,1COMPONENT-325",
   "1COMPONENT-326,1COMPONENT-327,1COMPONENT-328,1COMPONENT-329,1COMPONENT-330,1COMPONENT-331",
   "1COMPONENT-332,1COMPONENT-333,1COMPONENT-334,1COMPONENT-335,1COMPONENT-336,1COMPONENT-337",
   "1COMPONENT-338,1COMPONENT-339,1COMPONENT-340,1COMPONENT-341,1COMPONENT-342,1COMPONENT-343",
   "1COMPONENT-344,1COMPONENT-345,1COMPONENT-346,1COMPONENT-347,1COMPONENT-348,1COMPONENT-349",
   "1COMPONENT-350,1COMPONENT-351,1COMPONENT-352,1COMPONENT-353,1COMPONENT-354,1COMPONENT-355",
   "1COMPONENT-356,1COMPONENT-357,1COMPONENT-358,1COMPONENT-359,1COMPONENT-360,1COMPONENT-361",
   "1COMPONENT-362,1COMPONENT-363,1COMPONENT-364,1COMPONENT-365,1COMPONENT-366,1COMPONENT-367",
   "1COMPONENT-368,1COMPONENT-369,1COMPONENT-370,1COMPONENT-371,1COMPONENT-372,1COMPONENT-373",
   "1COMPONENT-374,1COMPONENT-375,1COMPONENT-376,1COMPONENT-377,1COMPONENT-378,1COMPONENT-379",
   "1COMPONENT-380,1COMPONENT-381,1COMPONENT-382,1COMPONENT-383,1COMPONENT-384,1COMPONENT-385",
   "1COMPONENT-386,1COMPONENT-387,1COMPONENT-388,1COMPONENT-389,1COMPONENT-390,1COMPONENT-391",
   "1COMPONENT-392,1COMPONENT-393,1COMPONENT-394,1COMPONENT-395,1COMPONENT-396,1COMPONENT-397",
   "1COMPONENT-398,1COMPONENT-399,1COMPONENT-400,1COMPONENT-401,1COMPONENT-402,1COMPONENT-403",
   "1COMPONENT-404,1COMPONENT-405,1COMPONENT-406,1COMPONENT-407,1COMPONENT-408,1COMPONENT-409",
   "1COMPONENT-410,1COMPONENT-411,1COMPONENT-412,1COMPONENT-413,1COMPONENT-414,1COMPONENT-415",
   "1COMPONENT-416,1COMPONENT-417,1COMPONENT-418,1COMPONENT-419,1COMPONENT-420,1COMPONENT-421",
   "1COMPONENT-422,1COMPONENT-423,1COMPONENT-424,1COMPONENT-425,1COMPONENT-426,1COMPONENT-427",
   "1COMPONENT-428,1COMPONENT-429,1COMPONENT-430,1COMPONENT-431,1COMPONENT-432,1COMPONENT-433",
   "1COMPONENT-434,1COMPONENT-435,1COMPONENT-436,1COMPONENT-437,1COMPONENT-438,1COMPONENT-439",
   "1COMPONENT-440,1COMPONENT-441,1COMPONENT-442,1COMPONENT-443,1COMPONENT-444,1COMPONENT-445",
   "1COMPONENT-446,1COMPONENT-447,1COMPONENT-448,1COMPONENT-449,1COMPONENT-450,1COMPONENT-451",
   "1COMPONENT-452,1COMPONENT-453,1COMPONENT-454,1COMPONENT-455,1COMPONENT-456,1COMPONENT-457",
   "1COMPONENT-458,1COMPONENT-459,1COMPONENT-460,1COMPONENT-461,1COMPONENT-462,1COMPONENT-463",
   "1COMPONENT-464,1COMPONENT-465,1COMPONENT-466,1COMPONENT-467,1COMPONENT-468,1COMPONENT-469",
   "1COMPONENT-470,1COMPONENT-471,1COMPONENT-472,1COMPONENT-473,1COMPONENT-474,1COMPONENT-475",
   "1COMPONENT-476,1COMPONENT-477,1COMPONENT-478,1COMPONENT-479,1COMPONENT-480,1COMPONENT-481",
   "1COMPONENT-482,1COMPONENT-483,1COMPONENT-484,1COMPONENT-485,1COMPONENT-486,1COMPONENT-487",
   "1COMPONENT-488,1COMPONENT-489,1COMPONENT-490,1COMPONENT-491,1COMPONENT-492,1COMPONENT-493",
   "1COMPONENT-494,1COMPONENT-495,1COMPONENT-496,1COMPONENT-497,1COMPONENT-498,1COMPONENT-499",
   "1COMPONENT-500,1COMPONENT-501,1COMPONENT-502,1COMPONENT-503,1COMPONENT-504,1COMPONENT-505",
   "1COMPONENT-506,1COMPONENT-507,1COMPONENT-508,1COMPONENT-509,1COMPONENT-510,1COMPONENT-511",
   "1COMPONENT-512,1COMPONENT-513,1COMPONENT-514,1COMPONENT-515,1COMPONENT-516,1COMPONENT-517",
   "1COMPONENT-518,1COMPONENT-519,1COMPONENT-520,1COMPONENT-521,1COMPONENT-522,1COMPONENT-523",
   "1COMPONENT-524,1COMPONENT-525,1COMPONENT-526,1COMPONENT-527,1COMPONENT-528,1COMPONENT-529",
   "1COMPONENT-530,1COMPONENT-531,1COMPONENT-532,1COMPONENT-533,1COMPONENT-534,1COMPONENT-535",
   "1COMPONENT-536,1COMPONENT-537,1COMPONENT-538,1COMPONENT-539,1COMPONENT-540,1COMPONENT-541",
   "1COMPONENT-542,1COMPONENT-543,1COMPONENT-544,1COMPONENT-545,1COMPONENT-546,1COMPONENT-547",
   "1COMPONENT-548,1COMPONENT-549,1COMPONENT-550,1COMPONENT-551,1COMPONENT-552,1COMPONENT-553",
   "1COMPONENT-554,1COMPONENT-555,1COMPONENT-556,1COMPONENT-557,1COMPONENT-558,1COMPONENT-559",
   "1COMPONENT-560,1COMPONENT-561,1COMPONENT-562,1COMPONENT-563,1COMPONENT-564,1COMPONENT-565",
   "1COMPONENT-566,1COMPONENT-567,1COMPONENT-568,1COMPONENT-569,1COMPONENT-570,1COMPONENT-571",
   "1COMPONENT-572,1COMPONENT-573,1COMPONENT-574,1COMPONENT-575,1COMPONENT-576,1COMPONENT-577",
   "1COMPONENT-578,1COMPONENT-579,1COMPONENT-580,1COMPONENT-581,1COMPONENT-582,1COMPONENT-583",
   "1COMPONENT-584,1COMPONENT-585,1COMPONENT-586,1COMPONENT-587,1COMPONENT-588,1COMPONENT-589",
   "1COMPONENT-590,1COMPONENT-591,1COMPONENT-592,1COMPONENT-593,1COMPONENT-594,1COMPONENT-595",
   "1COMPONENT-596,1COMPONENT-597,1COMPONENT-598,1COMPONENT-599,1COMPONENT-600,1COMPONENT-601",
   "1COMPONENT-602,1COMPONENT-603,1COMPONENT-604,1COMPONENT-605,1COMPONENT-606,1COMPONENT-607",
   "1COMPONENT-608,1COMPONENT-609,1COMPONENT-610,1COMPONENT-611,1COMPONENT-612,1COMPONENT-613",
   "1COMPONENT-614,1COMPONENT-615,1COMPONENT-616,1COMPONENT-617,1COMPONENT-618,1COMPONENT-619",
   "1COMPONENT-620,1COMPONENT-621,1COMPONENT-622,1COMPONENT-623,1COMPONENT-624,1COMPONENT-625",
   "1COMPONENT-626,1COMPONENT-627,1COMPONENT-628,1COMPONENT-629,1COMPONENT-630,1COMPONENT-631",
   "1COMPONENT-632,1COMPONENT-633,1COMPONENT-634,1COMPONENT-635,1COMPONENT-636,1COMPONENT-637",
   "1COMPONENT-638,1COMPONENT-639,1COMPONENT-640,1COMPONENT-641,1COMPONENT-642,1COMPONENT-643",
   "1COMPONENT-644,1COMPONENT-645,1COMPONENT-646,1COMPONENT-647,1COMPONENT-648,1COMPONENT-649",
   "1COMPONENT-650,1COMPONENT-651,1COMPONENT-652,1COMPONENT-653,1COMPONENT-654,1COMPONENT-655",
   "1COMPONENT-656,1COMPONENT-657,1COMPONENT-658,1COMPONENT-659,1COMPONENT-660,1COMPONENT-661",
   "1COMPONENT-662,1COMPONENT-663,1COMPONENT-664,1COMPONENT-665,1COMPONENT-666,1COMPONENT-667",
   "1COMPONENT-668,1COMPONENT-669,1COMPONENT-670,1COMPONENT-671,1COMPONENT-672,1COMPONENT-673",
   "1COMPONENT-674,1COMPONENT-675,1COMPONENT-676,1COMPONENT-677,1COMPONENT-678,1COMPONENT-679",
   "1COMPONENT-680,1COMPONENT-681,1COMPONENT-682,1COMPONENT-683,1COMPONENT-684,1COMPONENT-685",
   "1COMPONENT-686,1COMPONENT-687,1COMPONENT-688,1COMPONENT-689,1COMPONENT-690,1COMPONENT-691",
   "1COMPONENT-692,1COMPONENT-693,1COMPONENT-694,1COMPONENT-695,1COMPONENT-696,1COMPONENT-697",
   "1COMPONENT-698,1COMPONENT-699,1COMPONENT-700,1COMPONENT-701,1COMPONENT-702,1COMPONENT-703",
   "1COMPONENT-704,1COMPONENT-705,1COMPONENT-706,1COMPONENT-707,1COMPONENT-708,1COMPONENT-709",
   "1COMPONENT-710,1COMPONENT-711,1COMPONENT-712,1COMPONENT-713,1COMPONENT-714,1COMPONENT-715",
   "1COMPONENT-716,1COMPONENT-717,1COMPONENT-718,1COMPONENT-719,1COMPONENT-720,1COMPONENT-721",
   "1COMPONENT-722,1COMPONENT-723,1COMPONENT-724,1COMPONENT-725,1COMPONENT-726,1COMPONENT-727",
   "1COMPONENT-728,1COMPONENT-729,1COMPONENT-730,1COMPONENT-731,1COMPONENT-732,1COMPONENT-733",
   "1COMPONENT-734,1COMPONENT-735,1COMPONENT-736,1COMPONENT-737,1COMPONENT-738,1COMPONENT-739",
   "1COMPONENT-740,1COMPONENT-741,1COMPONENT-742,1COMPONENT-743,1COMPONENT-744,1COMPONENT-745",
   "1COMPONENT-746,1COMPONENT-747,1COMPONENT-748,1COMPONENT-749,1COMPONENT-750,1COMPONENT-751",
   "1COMPONENT-752,1COMPONENT-753,1COMPONENT-754,1COMPONENT-755,1COMPONENT-756,1COMPONENT-757",
   "1COMPONENT-758,1COMPONENT-759,1COMPONENT-760,1COMPONENT-761,1COMPONENT-762,1COMPONENT-763",
   "1COMPONENT-764,1COMPONENT-765,1COMPONENT-766,1COMPONENT-767,1COMPONENT-768,=1AFF0",
   "0ll a MINNAN TONE-2,3TONE-3,3TONE-4,3TONE-5,=1AFF5,3TONE-7,3TONE-8,3NASALIZED TONE-1,4TONE-2",
   "4TONE-3,4TONE-4,4TONE-5,=1AFFD,4TONE-7,4TONE-8,=1B000,2hz E,0HIRAGANA a hz YE",
   "0HENTAIGANA a A-1,2A-2,2A-3,2A-WO,2I-1,2I-2,2I-3,2I-4,2U-1,2U-2,2U-3,2U-4,2U-5,2E-2,2E-3,2E-4",
   "2E-5,2E-6,2O-1,2O-2,2O-3,2KA-1,2KA-2,2KA-3,2KA-4,2KA-5,2KA-6,2KA-7,2KA-8,2KA-9,2KA-10,2KA-11",
   "2KA-KE,2KI-1,2KI-2,2KI-3,2KI-4,2KI-5,2KI-6,2KI-7,2KI-8,2KU-1,2KU-2,2KU-3,2KU-4,2KU-5,2KU-6",
   "2KU-7,2KE-1,2KE-2,2KE-3,2KE-4,2KE-5,2KE-6,2KO-1,2KO-2,2KO-3,2KO-KI,2SA-1,2SA-2,2SA-3,2SA-4",
   "2SA-5,2SA-6,2SA-7,2SA-8,2SI-1,2SI-2,2SI-3,2SI-4,2SI-5,2SI-6,2SU-1,2SU-2,2SU-3,2SU-4,2SU-5",
   "2SU-6,2SU-7,2SU-8,2SE-1,2SE-2,2SE-3,2SE-4,2SE-5,2SO-1,2SO-2,2SO-3,2SO-4,2SO-5,2SO-6,2SO-7",
   "2TA-1,2TA-2,2TA-3,2TA-4,2TI-1,2TI-2,2TI-3,2TI-4,2TI-5,2TI-6,2TI-7,2TU-1,2TU-2,2TU-3,2TU-4",
   "2TU-TO,2TE-1,2TE-2,2TE-3,2TE-4,2TE-5,2TE-6,2TE-7,2TE-8,2TE-9,2TO-1,2TO-2,2TO-3,2TO-4,2TO-5",
   "2TO-6,2TO-RA,2NA-1,2NA-2,2NA-3,2NA-4,2NA-5,2NA-6,2NA-7,2NA-8,2NA-9,2NI-1,2NI-2,2NI-3,2NI-4",
   "2NI-5,2NI-6,2NI-7,2NI-TE,2NU-1,2NU-2,2NU-3,2NE-1,2NE-2,2NE-3,2NE-4,2NE-5,2NE-6,2NE-KO,2NO-1",
   "2NO-2,2NO-3,2NO-4,2NO-5,2HA-1,2HA-2,2HA-3,2HA-4,2HA-5,2HA-6,2HA-7,2HA-8,2HA-9,2HA-10,2HA-11",
   "2HI-1,2HI-2,2HI-3,2HI-4,2HI-5,2HI-6,2HI-7,2HU-1,2HU-2,2HU-3,2HE-1,2HE-2,2HE-3,2HE-4,2HE-5",
   "2HE-6,2HE-7,2HO-1,2HO-2,2HO-3,2HO-4,2HO-5,2HO-6,2HO-7,2HO-8,2MA-1,2MA-2,2MA-3,2MA-4,2MA-5",
   "2MA-6,2MA-7,2MI-1,2MI-2,2MI-3,2MI-4,2MI-5,2MI-6,2MI-7,2MU-1,2MU-2,2MU-3,2MU-4,2ME-1,2ME-2",
   "2ME-MA,2MO-1,2MO-2,2MO-3,2MO-4,2MO-5,2MO-6,2YA-1,2YA-2,2YA-3,2YA-4,2YA-5,2YA-YO,2YU-1,2YU-2",
   "2YU-3,2YU-4,2YO-1,2YO-2,2YO-3,2YO-4,2YO-5,2YO-6,2RA-1,2RA-2,2RA-3,2RA-4,2RI-1,2RI-2,2RI-3",
   "2RI-4,2RI-5,2RI-6,2RI-7,2RU-1,2RU-2,2RU-3,2RU-4,2RU-5,2RU-6,2RE-1,2RE-2,2RE-3,2RE-4,2RO-1",
   "2RO-2,2RO-3,2RO-4,2RO-5,2RO-6,2WA-1,2WA-2,2WA-3,2WA-4,2WA-5,2WI-1,2WI-2,2WI-3,2WI-4,2WI-5",
   "2WE-1,2WE-2,2WE-3,2WE-4,2WO-1,2WO-2,2WO-3,2WO-4,2WO-5,2WO-6,2WO-7,2N-MU-MO-1,2N-MU-MO-2",
   "0HIRAGANA a hz WU,0ll a hz YI,3YE,3WU,=1B132,0HIRAGANA a d KO,=1B150,3WI,3WE,3WO,=1B155",
   "0ll a d KO,=1B164,3WI,3WE,3WO,3N,=1BC00,0DUPLOYAN a H,2X,2P,2T,2F,2K,2L,2B,2D,2V,2G,2R,2P N",
   "2D S,2F N,2K M,2R S,2TH,2SLOAN DH,2DH,2KK,2SLOAN J,2HL,2LH,2RH,2M,2N,2J,2S,2M N,2N M,2J M,2S J",
   "2M b cg,2N b cg,2J b cg,4cy jr p i,2S b cg,5o,2M S,2N S,2J S,2S S,2M N S,2N M S,2J M S,2S J S",
   "2J S b cg,3N,4S,2S T,4R,3P,4R,2T S,3R S,2W,2WH,2W R,2S N,3M,2K R S,2G R S,2S K,4R,2A,2SLOAN OW",
   "2OA,2O,2AOU,2I,2E,2IE,2ev I,2UI,2EE,2SLOAN EH,2ROMANIAN I,2SLOAN EE,2eu I,2YE,2U,2EU,2XW,2U N",
   "2eu U,2ROMANIAN U,2UH,2SLOAN U,2OOH,2OW,2OU,2WA,2WO,2WI,2WEI,2WOW,2NASAL U,3O,3I,3A,2PERNIN AN",
   "3AM,2SLOAN EN,3AN,3ON,2bz M,=1BC70,1AFFIX l t SECANT,2MID t SECANT,2g t SECANT,2hw n SECANT",
   "2MID n SECANT,2fb n SECANT,2ATTACHED SECANT,3LEFT-TO-RIGHT SECANT,3TANGENT,3gy,3E aw,3I aw",
   "3TANGENT aw,=1BC80,2fb co,3TIGHT co,3dl,3eu dl,3cg,3ai,3em,3WAVE,3n,=1BC90,2hw co,3TIGHT co",
   "3dl,3eu dl,3cg,3ai,3em,3WAVE,3n,3f,=1BC9C,1h O b fv,1THICK a SELECTOR,1m ah,1be CHINOOK hm fk",
   "0SHORTHAND FORMAT a OVERLAP,2CONTINUING OVERLAP,2cq STEP,2UP STEP"]

end TaintFlow.CharacterName
