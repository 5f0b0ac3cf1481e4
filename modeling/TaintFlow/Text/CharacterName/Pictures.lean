/-!
# Names of pictures

Names in the order of their characters. An entry starts with the number of words that its name has
in common with the name before, and goes on with the other words; `=` gives, in hexadecimal digits,
the character of the entry after it, and without it comes the next character. A word in small letters
stands for one of the common words.
-/

namespace TaintFlow.CharacterName

/-- Signs of old computers, and of music. -/
def notationNames : List String :=
  ["=1CC00,0dm GO-KART,0ax GO-KART,0bm STICK FIGURE,0ax STICK FIGURE,0df STICK FIGURE",
   "0aq t RULER SEGMENT,0g n RULER SEGMENT,0aq g RULER SEGMENT,0ANTENNA,0t RESISTOR SEGMENT",
   "0n RESISTOR SEGMENT,0l THIRD INDUCTOR,0aa THIRD INDUCTOR,0g THIRD INDUCTOR,0bm DIODE,0ax DIODE",
   "0NPN TRANSISTOR,0PNP TRANSISTOR,0RECEPTACLE,0t CAPACITOR,0n CAPACITOR,0LOGIC GATE OR,2p",
   "2bc INPUTS,3OUTPUT,2BUFFER,3b bc INPUT,0BOX DRAWINGS bq t p ba g,5aq g,3kr p ba l,3di p aq l",
   "2m bu ba g TO aq l,5l TO aq g,0SEPARATED ce QUADRANT-1,2QUADRANT-2,2QUADRANT-12,2QUADRANT-3",
   "2QUADRANT-13,2QUADRANT-23,2QUADRANT-123,2QUADRANT-4,2QUADRANT-14,2QUADRANT-24,2QUADRANT-124",
   "2QUADRANT-34,2QUADRANT-134,2QUADRANT-234,2QUADRANT-1234,0ba l TWELFTH ai,1ca l TWELFTH ai",
   "2g TWELFTH ai,1g TWELFTH ai,1aa l TWELFTH ai,1l by ai,1g by ai,1aa g TWELFTH ai",
   "0aq aa l TWELFTH ai,1l by ai,1g by ai,1aa g TWELFTH ai,1l TWELFTH ai,1ca l TWELFTH ai",
   "2g TWELFTH ai,1g TWELFTH ai,0SPARSE t FILL,1n FILL,0ORTHOGONAL CROSSHATCH FILL",
   "0bu CROSSHATCH FILL,0DENSE n FILL,1t FILL,0SPECKLE FILL FRAME-1,2FRAME-2,0gi BASSINET",
   "0fu BASSINET,0FLYING SAUCER b BEAMS,2WITHOUT BEAMS,0ALIEN MONSTER dv JAWS,2el JAWS",
   "1SQUID dv TENTACLES,2el TENTACLES,1CRAB STEPPING g,3l,1SPIDER CROUCHING,2SPREAD",
   "1MONSTER STEP-1,2STEP-2,0bm ROCKET SHIP,0dm ROCKET SHIP,0ax ROCKET SHIP,0df ROCKET SHIP",
   "0kr bg gi ROBOT,2FORWARD-FACING ROBOT,2fu ROBOT,0di bg gi ROBOT,2FORWARD-FACING ROBOT",
   "2fu ROBOT,0bm ATOMIC BOMB,0dm ATOMIC BOMB,0ax ATOMIC BOMB,0df ATOMIC BOMB,0MUSHROOM CLOUD",
   "0bm RIFLE,0dm RIFLE,0ax RIFLE,0df RIFLE,0ap RAYS INWARD,2OUTWARD,0x dg ai MINUS l by fl",
   "4ba by fl,4g by fl,4aq by fl,1gm cn,0gi SNAKE HEAD b dv hx,0UP-FACING SNAKE HEAD b dv hx",
   "0fu SNAKE HEAD b dv hx,0DOWN-FACING SNAKE HEAD b dv hx,0gi SNAKE HEAD b el hx",
   "0UP-FACING SNAKE HEAD b el hx,0fu SNAKE HEAD b el hx,0DOWN-FACING SNAKE HEAD b el hx",
   "0bm ENERGY WAVE,0dm ENERGY WAVE,0ax ENERGY WAVE,0df ENERGY WAVE,0al SPIRAL jk kr l,4g,3di g,4l",
   "0STRIPED bm ag,1dm ag,1ax ag,1df ag,0n LADDER,0t LADDER,0z aq l POINTER,2g POINTER",
   "0bo RINGS ALIGNED HORIZONTALLY,0al au fm SALTIRES,3DIAGONALS,3x TRIANGLES,1APERTURE",
   "0INVERSE x dp,0l p ba bl hb ce ku x d al,0INVERSE x d al,0n em b au TICK MARKS",
   "0t em b au TICK MARKS,0gi FISH,0fu FISH,0gi FISH b dv hx,0fu FISH b dv hx,0FLAPPING BIRD",
   "0bm RACING CAR,0dm RACING CAR,0ax RACING CAR,0df RACING CAR,0t RACING CAR,0n RACING CAR",
   "1GO-KART,0bm TANK,0ax TANK,0bm ROCKET BOOSTER,0ax ROCKET BOOSTER,0bm ROLLER COASTER CAR",
   "0ax ROLLER COASTER CAR,0l bg FLYING SAUCER,0g bg FLYING SAUCER,0ba l bi cn b dv EYES",
   "1g bi cn b dv EYES,1l bi cn b el EYES,1g bi cn b el EYES,0aq l bi ih cn,1g bi ih cn",
   "1l bi gm cn,1g bi gm cn,1l bi cn b dv hx,1g bi cn b dv hx,1l bi FROWNING cn,1g bi FROWNING cn",
   "0ba l bi TELEVISION,1g bi TELEVISION,0aq l bi TELEVISION,1g bi TELEVISION",
   "0ba l bi MICROCOMPUTER,1g bi MICROCOMPUTER,0aq l bi MICROCOMPUTER,1g bi MICROCOMPUTER",
   "0ba l bi eq KING,1g bi eq KING,0aq l bi eq KING,1g bi eq KING,0ba l bi eq QUEEN,1g bi eq QUEEN",
   "0aq l bi eq QUEEN,1g bi eq QUEEN,0ba l bi eq ROOK,1g bi eq ROOK,0aq l bi eq ROOK,1g bi eq ROOK",
   "0ba l bi eq lf,1g bi eq lf,0aq l bi eq lf,1g bi eq lf,0ba l bi eq fs,1g bi eq fs",
   "0aq l bi eq fs,1g bi eq fs,0ba l bi eq PAWN,1g bi eq PAWN,0aq l bi eq PAWN,1g bi eq PAWN",
   "0ba l bi STANDING fs,1g bi STANDING fs,0aq l bi STANDING fs,1g bi STANDING fs",
   "0OUTLINED ez c a A,4B,4C,4D,4E,4F,4G,4H,4I,4J,4K,4L,4M,4N,4O,4P,4Q,4R,4S,4T,4U,4V,4W,4X,4Y,4Z",
   "1bp dq,2bl,2bo,2s,2au,2ay,2et,2av,2ap,2ci,=1CD00,0ce OCTANT-3,1OCTANT-23,1OCTANT-123,1OCTANT-4",
   "1OCTANT-14,1OCTANT-124,1OCTANT-34,1OCTANT-134,1OCTANT-234,1OCTANT-5,1OCTANT-15,1OCTANT-25",
   "1OCTANT-125,1OCTANT-135,1OCTANT-235,1OCTANT-1235,1OCTANT-45,1OCTANT-145,1OCTANT-245",
   "1OCTANT-1245,1OCTANT-345,1OCTANT-1345,1OCTANT-2345,1OCTANT-12345,1OCTANT-6,1OCTANT-16",
   "1OCTANT-26,1OCTANT-126,1OCTANT-36,1OCTANT-136,1OCTANT-236,1OCTANT-1236,1OCTANT-146,1OCTANT-246",
   "1OCTANT-1246,1OCTANT-346,1OCTANT-1346,1OCTANT-2346,1OCTANT-12346,1OCTANT-56,1OCTANT-156",
   "1OCTANT-256,1OCTANT-1256,1OCTANT-356,1OCTANT-1356,1OCTANT-2356,1OCTANT-12356,1OCTANT-456",
   "1OCTANT-1456,1OCTANT-2456,1OCTANT-12456,1OCTANT-3456,1OCTANT-13456,1OCTANT-23456,1OCTANT-17",
   "1OCTANT-27,1OCTANT-127,1OCTANT-37,1OCTANT-137,1OCTANT-237,1OCTANT-1237,1OCTANT-47,1OCTANT-147",
   "1OCTANT-247,1OCTANT-1247,1OCTANT-347,1OCTANT-1347,1OCTANT-2347,1OCTANT-12347,1OCTANT-157",
   "1OCTANT-257,1OCTANT-1257,1OCTANT-357,1OCTANT-2357,1OCTANT-12357,1OCTANT-457,1OCTANT-1457",
   "1OCTANT-12457,1OCTANT-3457,1OCTANT-13457,1OCTANT-23457,1OCTANT-67,1OCTANT-167,1OCTANT-267",
   "1OCTANT-1267,1OCTANT-367,1OCTANT-1367,1OCTANT-2367,1OCTANT-12367,1OCTANT-467,1OCTANT-1467",
   "1OCTANT-2467,1OCTANT-12467,1OCTANT-3467,1OCTANT-13467,1OCTANT-23467,1OCTANT-123467,1OCTANT-567",
   "1OCTANT-1567,1OCTANT-2567,1OCTANT-12567,1OCTANT-3567,1OCTANT-13567,1OCTANT-23567",
   "1OCTANT-123567,1OCTANT-4567,1OCTANT-14567,1OCTANT-24567,1OCTANT-124567,1OCTANT-34567",
   "1OCTANT-134567,1OCTANT-234567,1OCTANT-1234567,1OCTANT-18,1OCTANT-28,1OCTANT-128,1OCTANT-38",
   "1OCTANT-138,1OCTANT-238,1OCTANT-1238,1OCTANT-48,1OCTANT-148,1OCTANT-248,1OCTANT-1248",
   "1OCTANT-348,1OCTANT-1348,1OCTANT-2348,1OCTANT-12348,1OCTANT-58,1OCTANT-158,1OCTANT-258",
   "1OCTANT-1258,1OCTANT-358,1OCTANT-1358,1OCTANT-2358,1OCTANT-12358,1OCTANT-458,1OCTANT-1458",
   "1OCTANT-2458,1OCTANT-12458,1OCTANT-3458,1OCTANT-13458,1OCTANT-23458,1OCTANT-123458,1OCTANT-168",
   "1OCTANT-268,1OCTANT-1268,1OCTANT-368,1OCTANT-2368,1OCTANT-12368,1OCTANT-468,1OCTANT-1468",
   "1OCTANT-12468,1OCTANT-3468,1OCTANT-13468,1OCTANT-23468,1OCTANT-568,1OCTANT-1568,1OCTANT-2568",
   "1OCTANT-12568,1OCTANT-3568,1OCTANT-13568,1OCTANT-23568,1OCTANT-123568,1OCTANT-4568",
   "1OCTANT-14568,1OCTANT-24568,1OCTANT-124568,1OCTANT-34568,1OCTANT-134568,1OCTANT-234568",
   "1OCTANT-1234568,1OCTANT-178,1OCTANT-278,1OCTANT-1278,1OCTANT-378,1OCTANT-1378,1OCTANT-2378",
   "1OCTANT-12378,1OCTANT-478,1OCTANT-1478,1OCTANT-2478,1OCTANT-12478,1OCTANT-3478,1OCTANT-13478",
   "1OCTANT-23478,1OCTANT-123478,1OCTANT-578,1OCTANT-1578,1OCTANT-2578,1OCTANT-12578,1OCTANT-3578",
   "1OCTANT-13578,1OCTANT-23578,1OCTANT-123578,1OCTANT-4578,1OCTANT-14578,1OCTANT-24578",
   "1OCTANT-124578,1OCTANT-34578,1OCTANT-134578,1OCTANT-234578,1OCTANT-1234578,1OCTANT-678",
   "1OCTANT-1678,1OCTANT-2678,1OCTANT-12678,1OCTANT-3678,1OCTANT-13678,1OCTANT-23678",
   "1OCTANT-123678,1OCTANT-4678,1OCTANT-14678,1OCTANT-24678,1OCTANT-124678,1OCTANT-34678",
   "1OCTANT-134678,1OCTANT-234678,1OCTANT-1234678,1OCTANT-15678,1OCTANT-25678,1OCTANT-125678",
   "1OCTANT-35678,1OCTANT-235678,1OCTANT-1235678,1OCTANT-45678,1OCTANT-145678,1OCTANT-1245678",
   "1OCTANT-1345678,1OCTANT-2345678,0kr bg STANDING kh,0di bg STANDING kh,0kr bg fu RUNNER FRAME-1",
   "0di bg fu RUNNER FRAME-1,0kr bg fu RUNNER FRAME-2,0di bg fu RUNNER FRAME-2",
   "0kr bg gi RUNNER FRAME-1,0di bg gi RUNNER FRAME-1,0kr bg gi RUNNER FRAME-2",
   "0di bg gi RUNNER FRAME-2,0kr bg FORWARD-FACING RUNNER,0di bg FORWARD-FACING RUNNER FRAME-1",
   "4FRAME-2,4FRAME-3,4FRAME-4,0MOON LANDER,0kr bg FLAILING ROBOT FRAME-1,4FRAME-2,0df AIRPLANE",
   "0bm AIRPLANE,0d dm AIRPLANE,0dm FROG,0df FROG,0EXPLOSION FRAME-1,1FRAME-2,1FRAME-3",
   "0g bg p l bg z ai,0aq bg p ba bg z ai,0EXPLOSION AT HORIZON,0ba bg am z al,0aq bg am z al",
   "0am z al ku x VERY d al,0z n RECTANGLE b t fe,0kr l x bm d ag,0FUNNEL",
   "0BOX DRAWINGS m bu aq l TO aa ca TO aq g,4ba l TO aa ca TO ba g,0l bg z ELLIPSE",
   "0g bg z ELLIPSE,0l bg dt in t,0g bg dt in t,0t em b TICK ah,0l bg t em b s TICK MARKS",
   "0g bg t em b s TICK MARKS,0t em b s TICK MARKS,0aq bg n em b s TICK MARKS",
   "0ba bg n em b s TICK MARKS,0n em b s TICK MARKS,0BOX DRAWINGS bq n p kr g,5di g,5kr l,5di l",
   "0dg TYPE PIECE ba l ARC,5fm,4TERMINAL,4l CROTCH,3l ARM,3CROSSBAR,4b aq STEM,3ba bg VERTEX OF M",
   "3bu aq l,3ev ba TERMINAL,3ba g ARC,3g ARM,3ba g CROTCH,5fm,3STEM b g CROSSBAR,4",
   "3bu ba g p aq g,6,4aq g,3ev aq TERMINAL,3aq l p ba l ARC,3ca OF K,3aq bg VERTEX OF M",
   "3ba bg VERTEX OF W,3ca OF X,5Y,5Z b CROSSBAR,3he ba l ARC,3STEM b l CROSSBAR,3aq g p ba g ARC",
   "3bu ba l p aq l,3STEM b l JOINT,5CROSSBAR,3bu ba l,3aq TERMINAL,4l fm,5ARC,5CROTCH",
   "3CROSSBAR b ba STEM,3VERTEX OF V,3aq bg VERTEX OF W,4g ARC,5fm,5ARC b gy,5CROTCH,3STEM-45",
   "3STEM-2345,3STEM-4,3STEM-34,3STEM-234,3STEM-1234,3STEM-3,3STEM-23,3STEM-2,3STEM-12",
   "0SEPARATED ce SEXTANT-1,2SEXTANT-2,2SEXTANT-12,2SEXTANT-3,2SEXTANT-13,2SEXTANT-23,2SEXTANT-123",
   "2SEXTANT-4,2SEXTANT-14,2SEXTANT-24,2SEXTANT-124,2SEXTANT-34,2SEXTANT-134,2SEXTANT-234",
   "2SEXTANT-1234,2SEXTANT-5,2SEXTANT-15,2SEXTANT-25,2SEXTANT-125,2SEXTANT-35,2SEXTANT-135",
   "2SEXTANT-235,2SEXTANT-1235,2SEXTANT-45,2SEXTANT-145,2SEXTANT-245,2SEXTANT-1245,2SEXTANT-345",
   "2SEXTANT-1345,2SEXTANT-2345,2SEXTANT-12345,2SEXTANT-6,2SEXTANT-16,2SEXTANT-26,2SEXTANT-126",
   "2SEXTANT-36,2SEXTANT-136,2SEXTANT-236,2SEXTANT-1236,2SEXTANT-46,2SEXTANT-146,2SEXTANT-246",
   "2SEXTANT-1246,2SEXTANT-346,2SEXTANT-1346,2SEXTANT-2346,2SEXTANT-12346,2SEXTANT-56,2SEXTANT-156",
   "2SEXTANT-256,2SEXTANT-1256,2SEXTANT-356,2SEXTANT-1356,2SEXTANT-2356,2SEXTANT-12356",
   "2SEXTANT-456,2SEXTANT-1456,2SEXTANT-2456,2SEXTANT-12456,2SEXTANT-3456,2SEXTANT-13456",
   "2SEXTANT-23456,2SEXTANT-123456,0ba l bl fj ce,1ca l bl fj ce,2g bl fj ce,1g bl fj ce",
   "1aa l bl fj ce,2ca l bl fj ce,3g bl fj ce,2g bl fj ce,0aq aa l bl fj ce,2ca l bl fj ce",
   "3g bl fj ce,2g bl fj ce,1l bl fj ce,1ca l bl fj ce,2g bl fj ce,1g bl fj ce,0g bg aq bl by ce",
   "1s gf aq bl by ce,0l s gf aq bl by ce,1bg aq bl by ce,0aq bg l bl by ce,1s gf l bl by ce",
   "0ba s gf l bl by ce,1bg l bl by ce,0l bg ba bl by ce,1s gf ba bl by ce,0g s gf ba bl by ce",
   "1bg ba bl by ce,0ba bg g bl by ce,1s gf g bl by ce,0aq s gf g bl by ce,1bg g bl by ce",
   "0t ZIGZAG em,0KEYHOLE,0OLD PERSONAL COMPUTER b MONITOR IN PORTRAIT ORIENTATION,0x g ag CARET",
   "=1CF00,0ZNAMENNY ch ah GORAZDO NIZKO S KRYZHEM ON l,3NIZKO S KRYZHEM ON l,3TSATA ON l",
   "3GORAZDO NIZKO ON l,3NIZKO ON l,3SREDNE ON l,3MALO POVYSHE ON l,3POVYSHE ON l,3VYSOKO ON l",
   "3MALO POVYSHE S KHOKHLOM ON l,3POVYSHE S KHOKHLOM ON l,3VYSOKO S KHOKHLOM ON l",
   "3GORAZDO NIZKO S KRYZHEM ON g,3NIZKO S KRYZHEM ON g,3TSATA ON g,3GORAZDO NIZKO ON g",
   "3NIZKO ON g,3SREDNE ON g,3MALO POVYSHE ON g,3POVYSHE ON g,3VYSOKO ON g",
   "3MALO POVYSHE S KHOKHLOM ON g,3POVYSHE S KHOKHLOM ON g,3VYSOKO S KHOKHLOM ON g",
   "3TSATA S KRYZHEM,3MALO POVYSHE S KRYZHEM,3STRANNO MALO POVYSHE,3POVYSHE S KRYZHEM,4STRANNO",
   "3VYSOKO S KRYZHEM,3MALO POVYSHE STRANNO,3GORAZDO VYSOKO,3ZELO,3ON,3RAVNO,3TIKHAYA,3BORZAYA",
   "3UDARKA,3PODVERTKA,3LOMKA,3KUPNAYA,3KACHKA,3ZEVOK,3SKOBA,3RAZSEKA,3KRYZH ON l,=1CF30",
   "2TONAL RANGE ah MRACHNO,5SVETLO,5TRESVETLO,2ah ZADERZHKA,3DEMESTVENNY ZADERZHKA,3OTSECHKA",
   "3PODCHASHIE,4b n v,3CHASHKA,4POLNAYA,3OBLACHKO,3SOROCHYA NOZHKA,3TOCHKA,3DVOETOCHIE",
   "2ATTACHING n OMET,2ah CURVED OMET,3KRYZH,2aq TONAL RANGE INDICATOR,1PRIZNAK ds LEVEL-2",
   "3LEVEL-3,3DIRECTION FLIP,3KRYZH,3ROG,=1CF50,1NEUME KRYUK,3TIKHY,2PARAKLIT,2DVA V CHELNU",
   "2KLYUCH,2ZANOZHEK,2STOPITSA,3S OCHKOM,2PEREVODKA,3NEPOSTOYANNAYA,2STOPITSA b SOROCHYA NOZHKA",
   "2CHELYUSTKA,2PALKA,2ZAPYATAYA,2GOLUBCHIK BORZY,3TIKHY,3MRACHNY,3SVETLY,3TRESVETLY",
   "2VRAKHIYA PROSTAYA,3MRACHNAYA,3SVETLAYA,3TRESVETLAYA,3KLYUCHEVAYA PROSTAYA,4MRACHNAYA",
   "4SVETLAYA,4TRESVETLAYA,2m ZAPYATAYA,2as CHELYUSTKA,2DERBITSA,2KHAMILO,2CHASHKA,2PODCHASHIE",
   "2SKAMEYTSA MRACHNAYA,3SVETLAYA,3TRESVETLAYA,3TIKHAYA,2DEMESTVENNY KLYUCH",
   "2SKAMEYTSA KLYUCHEVAYA SVETLAYA,3KLYUCHENEPOSTOYANNAYA,3KLYUCHEVAYA TIKHAYA",
   "3DVOECHELNAYA PROSTAYA,4SVETLAYA,4NEPOSTOYANNAYA,4KLYUCHEVAYA,2SLOZHITIE,3S ZAPYATOY,3ZAKRYTOE",
   "3S KRYZHEM,2KRYZH,2ROG,2FITA,2KOBYLA,2ZMEYTSA,2STATYA,3S ZAPYATOY,4KRYZHEM,4ZAPYATOY I KRYZHEM",
   "4KRYZHEM I ZAPYATOY,3ZAKRYTAYA,4S ZAPYATOY,3S ROGOM,4DVUMYA ZAPYATYMI,4ZAPYATOY I PODCHASHIEM",
   "2POLKULIZMY,2STATYA NEPOSTOYANNAYA,2STRELA PROSTAYA,3MRACHNOTIKHAYA,3KRYZHEVAYA,3POLUPOVODNAYA",
   "3POVODNAYA,3NEPOSTOYANNAYA,3KLYUCHEPOVODNAYA,3KLYUCHENEPOSTOYANNAYA,3TIKHAYA PUTNAYA",
   "3DVOECHELNAYA,3DVOECHELNOKRYZHEVAYA,3DVOECHELNOPOVODNAYA,3DVOECHELNAYA KLYUCHEVAYA",
   "3DVOECHELNOPOVODNAYA KLYUCHEVAYA,3GROMNAYA b ck ZAPYATAYA,3GROMOPOVODNAYA b ck ZAPYATAYA",
   "3GROMNAYA,3GROMOPOVODNAYA,4b m ZAPYATAYA,3GROMOKRYZHEVAYA,4POVODNAYA,2MECHIK,3POVODNY",
   "3KLYUCHEVOY,3KLYUCHEPOVODNY,3KLYUCHENEPOSTOYANNY,2STRELA TRYASOGLASNAYA,3TRYASOPOVODNAYA",
   "3TRYASOSTRELNAYA,2OSOKA,3SVETLAYA,3TRESVETLAYA,3KRYUKOVAYA SVETLAYA,3KLYUCHEVAYA SVETLAYA",
   "4NEPOSTOYANNAYA,2STRELA KRYUKOVAYA,4POVODNAYA,4GROMNAYA b ck ZAPYATAYA",
   "4GROMOPOVODNAYA b ck ZAPYATAYA,4GROMNAYA,4GROMOPOVODNAYA,5b m ZAPYATAYA,4GROMOKRYZHEVAYA",
   "5POVODNAYA,4TRYASKA,2KUFISMA,2OBLAKO,2DUDA,2NEMKA,2PAUK,=1D000,0BYZANTINE MUSICAL y dc,3DASEIA",
   "3bd,3OXEIA EKFONITIKON,4DIPLI,3VAREIA EKFONITIKON,4DIPLI,3KATHISTI,3SYRMATIKI,3PARAKLITIKI",
   "3YPOKRISIS,4DIPLI,3KREMASTI,3APESO EKFONITIKON,3EXO EKFONITIKON,3TELEIA,3KENTIMATA,3APOSTROFOS",
   "4DIPLI,3SYNEVMA,3THITA,3OLIGON ha,3GORGON ha,3PSILON,3CHAMILON,3VATHY,3ISON ha,3KENTIMA ha",
   "3KENTIMATA ha,3SAXIMATA,3PARICHON,3STAVROS APODEXIA,3OXEIAI ha,3VAREIAI ha,3APODERMA ha",
   "3APOTHEMA,3KLASMA,3REVMA,3PIASMA ha,3TINAGMA,3ANATRICHISMA,3SEISMA,3SYNAGMA ha,4META STAVROU",
   "3OYRANISMA ha,3THEMA,3LEMOI,3DYO,3TRIA,3TESSERA,3KRATIMATA,3APESO EXO NEO,3FTHORA ha",
   "3IMIFTHORA,3TROMIKON ha,3KATAVA TROMIKON,3PELASTON,3PSIFISTON,3KONTEVMA,3CHOREVMA ha,3RAPISMA",
   "3PARAKALESMA ha,3PARAKLITIKI ha,3ICHADIN,3NANA,3PETASMA,3KONTEVMA ALLO,3TROMIKON ALLO",
   "3STRAGGISMATA,3GRONTHISMATA,3ISON NEO,3OLIGON NEO,3OXEIA NEO,3PETASTI,3KOUFISMA",
   "3PETASTOKOUFISMA,3KRATIMOKOUFISMA,3PELASTON NEO,3KENTIMATA NEO ANO,3KENTIMA NEO ANO,3YPSILI",
   "3APOSTROFOS NEO,3APOSTROFOI SYNDESMOS NEO,3YPORROI,3KRATIMOYPORROON,3ELAFRON,3CHAMILI",
   "3MIKRON ISON,3VAREIA NEO,3PIASMA NEO,3PSIFISTON NEO,3OMALON,3ANTIKENOMA,3LYGISMA",
   "3PARAKLITIKI NEO,3PARAKALESMA NEO,3ETERON PARAKALESMA,3KYLISMA,3ANTIKENOKYLISMA,3TROMIKON NEO",
   "3EKSTREPTON,3SYNAGMA NEO,3SYRMA,3CHOREVMA NEO,3EPEGERMA,3SEISMA NEO,3XIRON KLASMA",
   "3TROMIKOPSIFISTON,3PSIFISTOLYGISMA,3TROMIKOLYGISMA,3TROMIKOPARAKALESMA,3PSIFISTOPARAKALESMA",
   "3TROMIKOSYNAGMA,3PSIFISTOSYNAGMA,3GORGOSYNTHETON,3ARGOSYNTHETON,3ETERON ARGOSYNTHETON",
   "3OYRANISMA NEO,3THEMATISMOS ESO,4EXO,3THEMA APLOUN,3THES KAI APOTHES,3KATAVASMA,3ENDOFONON",
   "3YFEN KATO,4ANO,3STAVROS,3KLASMA ANO,3DIPLI ha,3KRATIMA ha,4ALLO,4NEO,3APODERMA NEO,3APLI",
   "3DIPLI,3TRIPLI,3TETRAPLI,3KORONIS,3LEIMMA ENOS CHRONOU,4DYO CHRONON,4TRION CHRONON",
   "4TESSARON CHRONON,4IMISEOS CHRONOU,3GORGON NEO ANO,4PARESTIGMENON ARISTERA,5DEXIA,3DIGORGON",
   "4PARESTIGMENON ARISTERA KATO,6ANO,5DEXIA,3TRIGORGON,3ARGON,3IMIDIARGON,3DIARGON",
   "3AGOGI POLI ARGI,4ARGOTERI,4ARGI,4METRIA,4MESI,4GORGI,4GORGOTERI,4POLI GORGI",
   "3MARTYRIA PROTOS ICHOS,4ALLI PROTOS ICHOS,4DEYTEROS ICHOS,4ALLI DEYTEROS ICHOS,4TRITOS ICHOS",
   "4TRIFONIAS,4TETARTOS ICHOS,5LEGETOS ICHOS,4LEGETOS ICHOS,4PLAGIOS ICHOS",
   "3ISAKIA TELOUS ICHIMATOS,3APOSTROFOI TELOUS ICHIMATOS,3FANEROSIS TETRAFONIAS,4MONOFONIAS",
   "4DIFONIAS,3MARTYRIA VARYS ICHOS,4PROTOVARYS ICHOS,4PLAGIOS TETARTOS ICHOS,3GORTHMIKON N APLOUN",
   "5DIPLOUN,3ENARXIS KAI FTHORA VOU,3IMIFONON,3IMIFTHORON,3FTHORA ha DEYTEROU ICHOU,4DIATONIKI PA",
   "5NANA,4NAOS ICHOS,4DIATONIKI DI,4SKLIRON DIATONON DI,4DIATONIKI KE,5ZO,5NI KATO,6ANO",
   "4MALAKON CHROMA DIFONIAS,6MONOFONIAS,3FHTORA SKLIRON CHROMA VASIS",
   "3FTHORA SKLIRON CHROMA SYNAFI,4NENANO,3CHROA ZYGOS,4KLITON,4SPATHI",
   "3FTHORA I YFESIS TETARTIMORION,4ENARMONIOS ANTIFONIA,3YFESIS TRITIMORION,3DIESIS TRITIMORION",
   "4TETARTIMORION,4APLI DYO DODEKATA,4MONOGRAMMOS TESSERA DODEKATA,4DIGRAMMOS EX DODEKATA",
   "4TRIGRAMMOS OKTO DODEKATA,3YFESIS APLI DYO DODEKATA,4MONOGRAMMOS TESSERA DODEKATA",
   "4DIGRAMMOS EX DODEKATA,4TRIGRAMMOS OKTO DODEKATA,3GENIKI DIESIS,4YFESIS,3DIASTOLI APLI MIKRI",
   "5MEGALI,4DIPLI,4THESEOS,3SIMANSIS THESEOS,5DISIMOU,5TRISIMOU,5TETRASIMOU,4ARSEOS,5DISIMOU",
   "5TRISIMOU,5TETRASIMOU,3DIGRAMMA GG,3DIFTOGGOS OU,3STIGMA,3ARKTIKO PA,4VOU,4GA,4DI,4KE,4ZO,4NI",
   "3KENTIMATA NEO MESO,3KENTIMA NEO MESO,3KENTIMATA NEO KATO,3KENTIMA NEO KATO,3KLASMA KATO",
   "3GORGON NEO KATO,=1D100,0MUSICAL y ck BARLINE,2m BARLINE,2q BARLINE,2hj q BARLINE",
   "2DASHED BARLINE,2ev BARLINE,2l REPEAT h,2g REPEAT h,2REPEAT cy,2DAL SEGNO,2DA CAPO,2SEGNO",
   "2CODA,2REPEATED FIGURE-1,3FIGURE-2,3FIGURE-3,2FERMATA,3o,2BREATH ah,2CAESURA,2BRACE,2ae",
   "2ONE-LINE STAFF,2TWO-LINE STAFF,2THREE-LINE STAFF,2FOUR-LINE STAFF,2FIVE-LINE STAFF",
   "2SIX-LINE STAFF,2SIX-STRING FRETBOARD,2FOUR-STRING FRETBOARD,2G CLEF,4OTTAVA ALTA,5BASSA",
   "2C CLEF,2F CLEF,4OTTAVA ALTA,5BASSA,2DRUM CLEF-1,3CLEF-2,=1D129,2js MEASURE REST,2m SHARP",
   "3FLAT,2FLAT UP,3cq,2NATURAL UP,3cq,2SHARP UP,3cq,2by ew SHARP,4FLAT,2COMMON TIME,2CUT TIME",
   "2OTTAVA ALTA,3BASSA,2QUINDICESIMA ALTA,3BASSA,2MULTI REST,2WHOLE REST,2bg REST,2by REST",
   "2hb REST,2fj REST,2THIRTY-SECOND REST,2SIXTY-FOURTH REST,2bl ac TWENTY-EIGHTH REST,2X kl",
   "2cj kl,2ai X kl,2al kl z,4x,2ag kl UP z,5x,4l z,5x,4g z,5x,4cq z,5x,4UP g z,6x,2MOON kl z,4x",
   "2TRIANGLE-ROUND kl cq z,5x,2bj kl,2VOID kl,2kl x,2NULL kl,2CLUSTER kl z,4x,2ep,2WHOLE NOTE",
   "2bg NOTE,2by NOTE,2hb NOTE,2fj NOTE,2THIRTY-SECOND NOTE,2SIXTY-FOURTH NOTE",
   "2bl ac TWENTY-EIGHTH NOTE,2ch STEM,3SPRECHGESANG STEM,3TREMOLO-1,3TREMOLO-2,3TREMOLO-3",
   "2FINGERED TREMOLO-1,3TREMOLO-2,3TREMOLO-3,2ch AUGMENTATION cg,3FLAG-1,3FLAG-2,3FLAG-3,3FLAG-4",
   "3FLAG-5,2BEGIN BEAM,2END BEAM,2BEGIN TIE,2END TIE,2BEGIN SLUR,2END SLUR,2BEGIN PHRASE",
   "2END PHRASE,2ch fd,3STACCATO,3TENUTO,3STACCATISSIMO,3MARCATO,3MARCATO-STACCATO",
   "3ACCENT-STACCATO,3LOURE,2ARPEGGIATO UP,3cq,2ch DOIT,3RIP,3FLIP,3SMEAR,3BEND,3m TONGUE",
   "3dt TONGUE,2RINFORZANDO,2SUBITO,2Z,2PIANO,2MEZZO,2FORTE,2CRESCENDO,2DECRESCENDO",
   "2GRACE NOTE SLASH,4NO SLASH,2TR,2TURN,2bc TURN,2TURN SLASH,3UP,2cb STROKE-1,3STROKE-2",
   "3STROKE-3,3STROKE-4,3STROKE-5,3STROKE-6,3STROKE-7,3STROKE-8,3STROKE-9,3STROKE-10,3STROKE-11",
   "2HAUPTSTIMME,2NEBENSTIMME,2END OF STIMME,2DEGREE SLASH,2ch cq BOW,3UP BOW,3HARMONIC",
   "3SNAP PIZZICATO,2PEDAL ah,3UP ah,2bg PEDAL ah,2GLISSANDO UP,3cq,2b FINGERNAILS,2DAMP,3ALL",
   "2MAXIMA,2LONGA,2BREVIS,2SEMIBREVIS z,3x,2MINIMA,3x,2SEMIMINIMA z,3x,2FUSA z,3x",
   "2LONGA PERFECTA REST,3IMPERFECTA REST,2BREVIS REST,2SEMIBREVIS REST,2MINIMA REST",
   "2SEMIMINIMA REST,2TEMPUS PERFECTUM CUM PROLATIONE PERFECTA,6IMPERFECTA,6PERFECTA DIMINUTION-1",
   "3IMPERFECTUM CUM PROLATIONE PERFECTA,6IMPERFECTA,7DIMINUTION-1,7DIMINUTION-2,7DIMINUTION-3",
   "2CROIX,2GREGORIAN C CLEF,3F CLEF,2al B,2VIRGA,2PODATUS,2CLIVIS,2SCANDICUS,2CLIMACUS,2TORCULUS",
   "2PORRECTUS,3FLEXUS,2SCANDICUS FLEXUS,2TORCULUS RESUPINUS,2PES SUBPUNCTIS,2KIEVAN C CLEF",
   "3END OF PIECE,3q NOTE,3RECITATIVE ah,3WHOLE NOTE,3bg NOTE,3by NOTE STEM cq,6UP",
   "3hb NOTE STEM cq,6UP,3FLAT h,2SORI,2KORON,=1D200,0jq VOCAL NOTATION SYMBOL-1,3SYMBOL-2",
   "3SYMBOL-3,3SYMBOL-4,3SYMBOL-5,3SYMBOL-6,3SYMBOL-7,3SYMBOL-8,3SYMBOL-9,3SYMBOL-10,3SYMBOL-11",
   "3SYMBOL-12,3SYMBOL-13,3SYMBOL-14,3SYMBOL-15,3SYMBOL-16,3SYMBOL-17,3SYMBOL-18,3SYMBOL-19",
   "3SYMBOL-20,3SYMBOL-21,3SYMBOL-22,3SYMBOL-23,3SYMBOL-24,3SYMBOL-50,3SYMBOL-51,3SYMBOL-52",
   "3SYMBOL-53,3SYMBOL-54,1INSTRUMENTAL NOTATION SYMBOL-1,3SYMBOL-2,3SYMBOL-4,3SYMBOL-5,3SYMBOL-7",
   "3SYMBOL-8,3SYMBOL-11,3SYMBOL-12,3SYMBOL-13,3SYMBOL-14,3SYMBOL-17,3SYMBOL-18,3SYMBOL-19",
   "3SYMBOL-23,3SYMBOL-24,3SYMBOL-25,3SYMBOL-26,3SYMBOL-27,3SYMBOL-29,3SYMBOL-30,3SYMBOL-32",
   "3SYMBOL-36,3SYMBOL-37,3SYMBOL-38,3SYMBOL-39,3SYMBOL-40,3SYMBOL-42,3SYMBOL-43,3SYMBOL-45",
   "3SYMBOL-47,3SYMBOL-48,3SYMBOL-49,3SYMBOL-50,3SYMBOL-51,3SYMBOL-52,3SYMBOL-53,3SYMBOL-54",
   "0ch jq MUSICAL TRISEME,3TETRASEME,3PENTASEME,0jq MUSICAL LEIMMA,=1D2C0,0KAKTOVIK NUMERAL dq",
   "2bl,2bo,2s,2au,2ay,2et,2av,2ap,2ci,2iu,2ELEVEN,2TWELVE,2THIRTEEN,2FOURTEEN,2FIFTEEN,2SIXTEEN",
   "2SEVENTEEN,2EIGHTEEN,2NINETEEN,=1D2E0,0MAYAN NUMERAL dq,2bl,2bo,2s,2au,2ay,2et,2av,2ap,2ci,2iu",
   "2ELEVEN,2TWELVE,2THIRTEEN,2FOURTEEN,2FIFTEEN,2SIXTEEN,2SEVENTEEN,2EIGHTEEN,2NINETEEN,=1D300",
   "0MONOGRAM FOR EARTH,0DIGRAM FOR HEAVENLY EARTH,2HUMAN EARTH,2EARTHLY HEAVEN,3HUMAN,2EARTH",
   "0TETRAGRAM FOR ca,2hm ai,2MIRED,2BARRIER,2KEEPING d,2CONTRARIETY,2ASCENT,2OPPOSITION",
   "2BRANCHING OUT,2DEFECTIVENESS OR DISTORTION,2DIVERGENCE,2YOUTHFULNESS,2INCREASE,2PENETRATION",
   "2REACH,2CONTACT,2HOLDING BACK,2WAITING,2FOLLOWING,2ADVANCE,2RELEASE,2RESISTANCE,2EASE,2JOY",
   "2CONTENTION,2ENDEAVOUR,2DUTIES,2CHANGE,2DECISIVENESS,2BOLD RESOLUTION,2PACKING,2LEGION",
   "2CLOSENESS,2KINSHIP,2GATHERING,2STRENGTH,2PURITY,2FULLNESS,2RESIDENCE,2LAW OR MODEL,2RESPONSE",
   "2GOING TO MEET,2ENCOUNTERS,2STOVE,2GREATNESS,2ENLARGEMENT,2PATTERN,2RITUAL,2FLIGHT",
   "2VASTNESS OR WASTING,2CONSTANCY,2MEASURE,2ETERNITY,2UNITY,2DIMINISHMENT,2el hx,2GUARDEDNESS",
   "2GATHERING IN,2MASSING,2ACCUMULATION,2EMBELLISHMENT,2DOUBT,2WATCH,2SINKING,2INNER,2DEPARTURE",
   "2DARKENING,2DIMMING,2EXHAUSTION,2SEVERANCE,2STOPPAGE,2HARDNESS,2COMPLETION,2CLOSURE,2FAILURE",
   "2AGGRAVATION,2COMPLIANCE,2ON THE VERGE,2DIFFICULTIES,2LABOURING,2FOSTERING,=1D360",
   "0COUNTING ROD UNIT bp bl,4bo,4s,4au,4ay,4et,4av,4ap,4ci,2TENS bp bl,4bo,4s,4au,4ay,4et,4av,4ap",
   "4ci,0gb TALLY ah bl,3bo,3s,3au,3ay,0TALLY ah bl,2ay"]

/-- Mathematical letters and sign writing. -/
def mathematicalNames : List String :=
  ["=1D400,0MATHEMATICAL BOLD c A,3B,3C,3D,3E,3F,3G,3H,3I,3J,3K,3L,3M,3N,3O,3P,3Q,3R,3S,3T,3U,3V",
   "3W,3X,3Y,3Z,2d A,3B,3C,3D,3E,3F,3G,3H,3I,3J,3K,3L,3M,3N,3O,3P,3Q,3R,3S,3T,3U,3V,3W,3X,3Y,3Z",
   "1ITALIC c A,3B,3C,3D,3E,3F,3G,3H,3I,3J,3K,3L,3M,3N,3O,3P,3Q,3R,3S,3T,3U,3V,3W,3X,3Y,3Z,2d A,3B",
   "3C,3D,3E,3F,3G,=1D456,3I,3J,3K,3L,3M,3N,3O,3P,3Q,3R,3S,3T,3U,3V,3W,3X,3Y,3Z,1BOLD ITALIC c A",
   "4B,4C,4D,4E,4F,4G,4H,4I,4J,4K,4L,4M,4N,4O,4P,4Q,4R,4S,4T,4U,4V,4W,4X,4Y,4Z,3d A,4B,4C,4D,4E,4F",
   "4G,4H,4I,4J,4K,4L,4M,4N,4O,4P,4Q,4R,4S,4T,4U,4V,4W,4X,4Y,4Z,1ic c A,=1D49E,3C,3D,=1D4A2,3G",
   "=1D4A5,3J,3K,=1D4A9,3N,3O,3P,3Q,=1D4AE,3S,3T,3U,3V,3W,3X,3Y,3Z,2d A,3B,3C,3D,=1D4BB,3F,=1D4BD",
   "3H,3I,3J,3K,3L,3M,3N,=1D4C5,3P,3Q,3R,3S,3T,3U,3V,3W,3X,3Y,3Z,1BOLD ic c A,4B,4C,4D,4E,4F,4G,4H",
   "4I,4J,4K,4L,4M,4N,4O,4P,4Q,4R,4S,4T,4U,4V,4W,4X,4Y,4Z,3d A,4B,4C,4D,4E,4F,4G,4H,4I,4J,4K,4L,4M",
   "4N,4O,4P,4Q,4R,4S,4T,4U,4V,4W,4X,4Y,4Z,1FRAKTUR c A,3B,=1D507,3D,3E,3F,3G,=1D50D,3J,3K,3L,3M",
   "3N,3O,3P,3Q,=1D516,3S,3T,3U,3V,3W,3X,3Y,=1D51E,2d A,3B,3C,3D,3E,3F,3G,3H,3I,3J,3K,3L,3M,3N,3O",
   "3P,3Q,3R,3S,3T,3U,3V,3W,3X,3Y,3Z,1gx c A,3B,=1D53B,3D,3E,3F,3G,=1D540,3I,3J,3K,3L,3M,=1D546,3O",
   "=1D54A,3S,3T,3U,3V,3W,3X,3Y,=1D552,2d A,3B,3C,3D,3E,3F,3G,3H,3I,3J,3K,3L,3M,3N,3O,3P,3Q,3R,3S",
   "3T,3U,3V,3W,3X,3Y,3Z,1BOLD FRAKTUR c A,4B,4C,4D,4E,4F,4G,4H,4I,4J,4K,4L,4M,4N,4O,4P,4Q,4R,4S",
   "4T,4U,4V,4W,4X,4Y,4Z,3d A,4B,4C,4D,4E,4F,4G,4H,4I,4J,4K,4L,4M,4N,4O,4P,4Q,4R,4S,4T,4U,4V,4W,4X",
   "4Y,4Z,1eg c A,3B,3C,3D,3E,3F,3G,3H,3I,3J,3K,3L,3M,3N,3O,3P,3Q,3R,3S,3T,3U,3V,3W,3X,3Y,3Z,2d A",
   "3B,3C,3D,3E,3F,3G,3H,3I,3J,3K,3L,3M,3N,3O,3P,3Q,3R,3S,3T,3U,3V,3W,3X,3Y,3Z,2BOLD c A,4B,4C,4D",
   "4E,4F,4G,4H,4I,4J,4K,4L,4M,4N,4O,4P,4Q,4R,4S,4T,4U,4V,4W,4X,4Y,4Z,3d A,4B,4C,4D,4E,4F,4G,4H,4I",
   "4J,4K,4L,4M,4N,4O,4P,4Q,4R,4S,4T,4U,4V,4W,4X,4Y,4Z,2ITALIC c A,4B,4C,4D,4E,4F,4G,4H,4I,4J,4K",
   "4L,4M,4N,4O,4P,4Q,4R,4S,4T,4U,4V,4W,4X,4Y,4Z,3d A,4B,4C,4D,4E,4F,4G,4H,4I,4J,4K,4L,4M,4N,4O,4P",
   "4Q,4R,4S,4T,4U,4V,4W,4X,4Y,4Z,2BOLD ITALIC c A,5B,5C,5D,5E,5F,5G,5H,5I,5J,5K,5L,5M,5N,5O,5P,5Q",
   "5R,5S,5T,5U,5V,5W,5X,5Y,5Z,4d A,5B,5C,5D,5E,5F,5G,5H,5I,5J,5K,5L,5M,5N,5O,5P,5Q,5R,5S,5T,5U,5V",
   "5W,5X,5Y,5Z,1MONOSPACE c A,3B,3C,3D,3E,3F,3G,3H,3I,3J,3K,3L,3M,3N,3O,3P,3Q,3R,3S,3T,3U,3V,3W",
   "3X,3Y,3Z,2d A,3B,3C,3D,3E,3F,3G,3H,3I,3J,3K,3L,3M,3N,3O,3P,3Q,3R,3S,3T,3U,3V,3W,3X,3Y,3Z",
   "1ITALIC d ko I,4J,=1D6A8,1BOLD c hs,3BETA,3ky,3DELTA,3gj,3ZETA,3ETA,3jw,3lk,3KAPPA,3LAMDA,3MU",
   "3NU,3XI,3ir,3PI,3RHO,3jw y,3jo,3TAU,3gc,3PHI,3CHI,3PSI,3gw,2NABLA,2d hs,3BETA,3ky,3DELTA,3gj",
   "3ZETA,3ETA,3jw,3lk,3KAPPA,3LAMDA,3MU,3NU,3XI,3ir,3PI,3RHO,3q jo,3jo,3TAU,3gc,3PHI,3CHI,3PSI",
   "3gw,2PARTIAL DIFFERENTIAL,2gj y,2jw y,2KAPPA y,2PHI y,2RHO y,2PI y,1ITALIC c hs,3BETA,3ky",
   "3DELTA,3gj,3ZETA,3ETA,3jw,3lk,3KAPPA,3LAMDA,3MU,3NU,3XI,3ir,3PI,3RHO,3jw y,3jo,3TAU,3gc,3PHI",
   "3CHI,3PSI,3gw,2NABLA,2d hs,3BETA,3ky,3DELTA,3gj,3ZETA,3ETA,3jw,3lk,3KAPPA,3LAMDA,3MU,3NU,3XI",
   "3ir,3PI,3RHO,3q jo,3jo,3TAU,3gc,3PHI,3CHI,3PSI,3gw,2PARTIAL DIFFERENTIAL,2gj y,2jw y,2KAPPA y",
   "2PHI y,2RHO y,2PI y,1BOLD ITALIC c hs,4BETA,4ky,4DELTA,4gj,4ZETA,4ETA,4jw,4lk,4KAPPA,4LAMDA",
   "4MU,4NU,4XI,4ir,4PI,4RHO,4jw y,4jo,4TAU,4gc,4PHI,4CHI,4PSI,4gw,3NABLA,3d hs,4BETA,4ky,4DELTA",
   "4gj,4ZETA,4ETA,4jw,4lk,4KAPPA,4LAMDA,4MU,4NU,4XI,4ir,4PI,4RHO,4q jo,4jo,4TAU,4gc,4PHI,4CHI",
   "4PSI,4gw,3PARTIAL DIFFERENTIAL,3gj y,3jw y,3KAPPA y,3PHI y,3RHO y,3PI y,1eg BOLD c hs,4BETA",
   "4ky,4DELTA,4gj,4ZETA,4ETA,4jw,4lk,4KAPPA,4LAMDA,4MU,4NU,4XI,4ir,4PI,4RHO,4jw y,4jo,4TAU,4gc",
   "4PHI,4CHI,4PSI,4gw,3NABLA,3d hs,4BETA,4ky,4DELTA,4gj,4ZETA,4ETA,4jw,4lk,4KAPPA,4LAMDA,4MU,4NU",
   "4XI,4ir,4PI,4RHO,4q jo,4jo,4TAU,4gc,4PHI,4CHI,4PSI,4gw,3PARTIAL DIFFERENTIAL,3gj y,3jw y",
   "3KAPPA y,3PHI y,3RHO y,3PI y,3ITALIC c hs,5BETA,5ky,5DELTA,5gj,5ZETA,5ETA,5jw,5lk,5KAPPA",
   "5LAMDA,5MU,5NU,5XI,5ir,5PI,5RHO,5jw y,5jo,5TAU,5gc,5PHI,5CHI,5PSI,5gw,4NABLA,4d hs,5BETA,5ky",
   "5DELTA,5gj,5ZETA,5ETA,5jw,5lk,5KAPPA,5LAMDA,5MU,5NU,5XI,5ir,5PI,5RHO,5q jo,5jo,5TAU,5gc,5PHI",
   "5CHI,5PSI,5gw,4PARTIAL DIFFERENTIAL,4gj y,4jw y,4KAPPA y,4PHI y,4RHO y,4PI y,1BOLD c DIGAMMA",
   "2d DIGAMMA,=1D7CE,2bp dq,3bl,3bo,3s,3au,3ay,3et,3av,3ap,3ci,1gx bp dq,3bl,3bo,3s,3au,3ay,3et",
   "3av,3ap,3ci,1eg bp dq,3bl,3bo,3s,3au,3ay,3et,3av,3ap,3ci,2BOLD bp dq,4bl,4bo,4s,4au,4ay,4et",
   "4av,4ap,4ci,1MONOSPACE bp dq,3bl,3bo,3s,3au,3ay,3et,3av,3ap,3ci,0SIGNWRITING dx bv,1fn bv",
   "1HAND-CUP bv,1HAND-OVAL bv,1fy bv,1il bv,1dx bv BENT,1fn bv BENT,1dx cz UNDER bv BENT",
   "2bv he KNUCKLE,3CUPPED,3lj,4hw,1fn bv HINGE,1dx bv aa,1fn bv aa,1dx bv aa BENT,4he KNUCKLES",
   "4lj,3UP aa lj,3lj aa UP,3aa gn,5bv BENT,5aa BENT,5CUPPED,5lj,4li,1fn bv aa li",
   "1dx aa BENT da bv,2bv BENT da aa,3aa cz,1fn bv aa cz,1dx bv aa fg cz BENT,4BENT cz fg,4cz BENT",
   "4lj SPREAD cz SIDE,3UP aa lj cz SIDE,7gn,3lj aa UP cz SIDE,3aa UP SPREAD cz ip,4cz CUPPED,5ct",
   "5HOOKED,5lj,2cz iy bv aa fg,2bv aa gn cz SIDE,7gn,7BENT,2aa cz HOOKED bv UP",
   "2bv cz HOOKED aa UP,3aa gn lj cz SIDE,4li cz SIDE,4gn cz ip,5CUPPED cz ip,2aa cz CUPPED bv UP",
   "2bv cz CUPPED aa UP,2aa cz ct bv UP,6lj,2bv cz ANGLED OUT aa UP,5IN aa UP,4ct aa UP",
   "3aa cz gn lj,5ANGLED OUT,6,2aa cz ANGLED OUT bv UP,7li,5bv UP,2bv cz HOOKED aa lj",
   "1HAND-FLAT au gq,4BENT,4lj,4gn,5SPLIT,1HAND-CLAW au gq gn,1dx au gq gn BENT,1fy au gq gn",
   "1HAND-FLAT ay gq SPREAD,2HEEL ay gq SPREAD,2ay gq SPREAD au BENT,2HEEL ay gq SPREAD au BENT",
   "2ay gq SPREAD BENT,2HEEL ay gq SPREAD BENT,2ay gq SPREAD cz ip,1HAND-CUP ay gq SPREAD,5dv",
   "1fy ay gq SPREAD dv,1HAND-OVAL ay gq SPREAD,1HAND-FLAT ay gq SPREAD lj,6cz SIDE,6NO cz,2",
   "2iy PALM FACINGS,2HEEL,2cz SIDE,2HEEL cz SIDE,2cz BENT,3ip,2SPLIT bv cz SIDE,3ca,4cz SIDE",
   "6BENT,3dh,1HAND-CLAW,2cz SIDE,2NO cz,2cz ip,1HAND-HOOK CURLICUE,2,1HAND-CUP dv,2,2dv cz SIDE",
   "2cz SIDE,2dv NO cz,2NO cz,2dv cz ip,2cz ip,1HAND-CURLICUE dv,2,1fn,1HAND-OVAL,2cz SIDE,2NO cz",
   "2cz ip,1fy dv,3cz ip,2,2d,2dv cz SIDE,2cz SIDE,2dv NO cz,2NO cz,2cz SIDE TOUCHING bv,3iy aa do",
   "1il,1dx bv aa do,1fn bv aa do,1fy bv aa do,1il bv aa do,1fy dh,1dx bv aa do BENT,5gn",
   "1fy bv aa do gn,1dx dh cq,4RIPPLE fg,5CURVED,4OTHERS ct,3UP,2cz UNDER dh UP,1fn dh UP",
   "1HAND-OVAL dh UP,1il dh UP,1dx dh he KNUCKLE,3BENT,3TOUCHES cz,3cz,1fy dh cz,1dx dh bv cz",
   "1fy dh bv cz,1il dh bv cz bv cz OUT,7,1dx dh bv,1fn dh bv,1fy dh bv,1il dh bv,1dx bv aa dh",
   "1fn bv aa dh,1fy bv aa dh,2do,1il bv aa dh,1dx bv aa fv dh,1fn bv aa fv dh,1dx do cq",
   "1fy do cq bv cz aw aa,1il do cq aa cz bv fv,1dx do UP,3he KNUCKLE,3dh,1fn do dh",
   "1HAND-OVAL do dh,1il do dh,1dx do aa,4gn,4he KNUCKLES,3bv,3cz,1HAND-HOOK do cz,1dx bv do dh",
   "1fn bv do dh,1HAND-CURLICUE bv do dh ON,1HAND-HOOK bv do dh OUT,5IN,5UNDER,1HAND-CUP bv do dh",
   "1fy bv do dh,1il bv do dh OUT,5,1dx aa cq,1fy aa,1dx aa UP,1fn aa UP,1dx aa he KNUCKLE",
   "3UP cz SIDE,1HAND-HOOK aa cz,1dx aa cz dh,3dh,3do dh,1fn aa do dh,1HAND-CURLICUE aa do dh ON",
   "1HAND-CUP aa do dh,1fy aa do dh,1il aa do dh OUT,5IN,5,1fn aa do dh BENT",
   "1HAND-CLAW aa do dh gn,6SIDE,1HAND-HOOK aa do dh gn OUT,6IN,6,1fy bv lj,1dx bv cz SIDE",
   "1fy bv cz SIDE,1dx bv cz SIDE cz bu,6gn,6BENT,5bv BENT,5BOTH BENT,5bv HINGE,4ip bv fg,6BENT",
   "4aw,4CURLICUE,4CURVE cz jr,1HAND-CLAW bv cz CURVE cz jr,1dx bv cz CURVE cz UNDER,4ai",
   "1HAND-CUP bv cz,4dv,1fy bv cz dv,4dg,4,4d,1il bv cz OUT,4IN,4,1dx cz,3HEEL,3SIDE bu,4gn,4BENT",
   "3ip,3iy bv aa,4aa do,4do dh,3UNDER bo gq,3da bo gq,3UNDER s gq,4au gq,3da au he KNUCKLES,2",
   "2HEEL,1TOUCH ck,2js,2iy,1GRASP ck,2js,2iy,1STRIKE ck,2js,2iy,1BRUSH ck,2js,2iy,1RUB ck,2js,2iy",
   "1SURFACE SYMBOLS,2iy,1SQUEEZE dg ck,2d ck,2dg js,2d js,2SEQUENTIAL,1FLICK dg ck,2d ck,2dg js",
   "2d js,2SEQUENTIAL,1SQUEEZE FLICK fc,1MOVEMENT-HINGE UP cq dg,4d,3SEQUENTIAL,2cq SEQUENTIAL",
   "2UP cq fc dg,5d,2SIDE TO SIDE SCISSORS,1ef FINGER CONTACT,1dz FINGER CONTACT,1ef ck fg d,4bh",
   "4dg,4LARGEST,3WRIST FLEX,2m fg,3WRIST FLEX,3fc,4WRIST FLEX,2fv,2dt fg MOVEMENT,3WRIST FLEX,3fc",
   "4WRIST FLEX,2BEND d,3bh,3dg,2fm d,3bh,3dg,3ROTATION,2CHECK d,3bh,3dg,2BOX d,3bh,3dg,2ZIGZAG d",
   "3bh,3dg,2PEAKS d,3bh,3dg,1TRAVEL-WALLPLANE kx ck,3m,3fc,2ki ck,3m,3fc,2SHAKING,2ARM SPIRAL ck",
   "4m,4dt,1MOVEMENT-DIAGONAL AWAY d,3bh,3dg,3LARGEST,2TOWARDS d,3bh,3dg,3LARGEST,2iy AWAY d,4bh",
   "4dg,4LARGEST,3TOWARDS d,4bh,4dg,4LARGEST,1dz ck fg d,4bh,4dg,4LARGEST,3WRIST FLEX,2m fg",
   "3WRIST FLEX,3fc,4WRIST FLEX,2fv,2dt fg MOVEMENT,3WRIST FLEX,3fc MOVEMENT,4WRIST FLEX,2BEND",
   "2fm d,3bh,3dg,2CHECK,2BOX d,3bh,3dg,2ZIGZAG d,3bh,3dg,2PEAKS d,3bh,3dg",
   "1TRAVEL-FLOORPLANE ki ck,3m,3fc,2kx ck,3m,3fc,2SHAKING,1ef CURVE by d,4bh,4dg,4LARGEST",
   "3HALF-CIRCLE d,4bh,4dg,4LARGEST,3THREE-QUARTER ai d,5bh,2HUMP d,3bh,3dg,2LOOP d,3bh,3dg,3d m",
   "2WAVE CURVE m d,5bh,5dg,4dt d,5bh,5dg,2CURVE THEN fg,2CURVED fv d,4bh,1kx ck,2m,2ek",
   "1ef SHAKING,2CURVE ff FRONT WALL,2HUMP ff FRONT WALL,2LOOP ff FRONT WALL,2WAVE ff FRONT WALL",
   "1kx ck ff FRONT WALL,2m ff FRONT WALL,2fc ff FRONT WALL,1ef CURVE ff CHEST,2HUMP ff CHEST",
   "2LOOP ff CHEST,2WAVE ff CHEST,1kx ck ff CHEST,2m ff CHEST,2fc ff CHEST,1ef WAVE bu PATH d,5bh",
   "5dg,1dz CURVE ff CEILING d,5dg,2HUMP ff CEILING d m,5dg m,5d dt,5dg dt,2LOOP ff CEILING d ck",
   "5dg ck,5d m,5dg m,2WAVE ff CEILING d,5dg,1ki ck ff CEILING,2m ff CEILING,2fc ff CEILING",
   "1dz CURVE ff FLOOR d,5dg,2HUMP ff FLOOR d m,5dg m,5dt d dt,6dg dt,2LOOP ff FLOOR d ck,5dg ck",
   "5d m,5dg m,2WAVE ff FLOOR d,5dg,1ki ck ff FLOOR,2m ff FLOOR,2fc ff FLOOR,1dz CURVE d,3bh,3dg",
   "3LARGEST,3COMBINED,2HUMP d,2LOOP d,2WAVE SNAKE,3d,3dg,1ki ck,2m,2fc,1dz SHAKING PARALLEL",
   "1ef ARM ai d ck,4bh ck,4d m,4bh m,1dz ARM ai ff WALL d ck,6bh ck,6dg ck,6d m,6bh m,6dg m",
   "1ef WRIST ai FRONT ck,5m,1dz WRIST ai ff WALL ck,6m,1ef FINGER lh ck,4m",
   "1dz FINGER lh ff WALL ck,6m,1DYNAMIC ao d,3dg,2FAST,2SLOW,2TENSE,2RELAXED,2SIMULTANEOUS,3fc",
   "2EVERY OTHER TIME,2GRADUAL,1HEAD,2RIM,2ef fg,3TILT,2dz fg,2ef CURVE,2dz CURVE,2MOVEMENT ai",
   "1cn DIRECTION POSITION NOSE ip TILTING,5UP OR cq,8TILTING,1EYEBROWS fg UP,3gm,3cq",
   "1DREAMY EYEBROWS gm cq,3cq gm,3UP gm,3gm UP,1FOREHEAD gm,2CONTACT,2WRINKLED,1EYES dv,2SQUEEZED",
   "2el,1EYE BLINK ck,3js,1EYES bg dv,2WIDE dv,2bg el,2WIDENING MOVEMENT,1EYE WINK,1EYELASHES UP",
   "2cq,2FLUTTERING,1EYEGAZE-WALLPLANE fg,3m,3fc,1EYEGAZE-FLOORPLANE fg,3m,3fc",
   "1EYEGAZE-WALLPLANE CURVED,1EYEGAZE-FLOORPLANE CURVED,1EYEGAZE-WALLPLANE CIRCLING",
   "1CHEEKS PUFFED,2gm,2SUCKED,1TENSE CHEEKS fb,3aa,3hw,1EARS,1NOSE gm,2CONTACT,2WRINKLES,2WIGGLES",
   "1AIR BLOWING OUT,2SUCKING IN,2BLOW d ROTATIONS,2SUCK d ROTATIONS,1BREATH INHALE,2EXHALE",
   "1hx el gm,3ip,3CONTACT,2SMILE,3WRINKLED,3dv,2FROWN,3WRINKLED,3dv,2dv ai,3ip,3WRINKLED,3OVAL",
   "4WRINKLED,4YAWN,3RECTANGLE,4WRINKLED,4YAWN,2KISS,3ip,3WRINKLED,2TENSE,3ip,3SUCKED",
   "1LIPS PRESSED TOGETHER,1LIP aq da ba,2ba da aq,1hx CORNERS,2WRINKLES ck,3m",
   "1TONGUE STICKING OUT FAR,2LICKING LIPS,2TIP iy LIPS,3TOUCHING jr hx,2jr hx RELAXED",
   "2MOVES AGAINST CHEEK,2ca STICKING OUT,3jr hx,1TEETH,2MOVEMENT,2ON TONGUE,4MOVEMENT,3LIPS",
   "4MOVEMENT,2BITE LIPS,1ef JAW,1dz JAW,1NECK,1HAIR,1EXCITEMENT,1SHOULDER HIP SPINE,3POSITIONS",
   "1WALLPLANE SHOULDER HIP MOVE,1FLOORPLANE SHOULDER HIP MOVE,1SHOULDER TILTING jk WAIST",
   "1TORSO-WALLPLANE fg STRETCH,2CURVED BEND,1TORSO-FLOORPLANE TWISTING",
   "1ba BODY TILTING jk HIP JOINTS,1LIMB COMBINATION,2LENGTH-1,2LENGTH-2,2LENGTH-3,2LENGTH-4",
   "2LENGTH-5,2LENGTH-6,2LENGTH-7,1FINGER,1LOCATION-WALLPLANE km,1LOCATION-FLOORPLANE km",
   "1LOCATION HEIGHT,2WIDTH,2DEPTH,2HEAD NECK,2TORSO,2LIMBS DIGITS,1ed,1hm fk,1ji,1ia,1bj,=1DA9B",
   "1FILL MODIFIER-2,2MODIFIER-3,2MODIFIER-4,2MODIFIER-5,2MODIFIER-6,=1DAA1,1ROTATION MODIFIER-2",
   "2MODIFIER-3,2MODIFIER-4,2MODIFIER-5,2MODIFIER-6,2MODIFIER-7,2MODIFIER-8,2MODIFIER-9",
   "2MODIFIER-10,2MODIFIER-11,2MODIFIER-12,2MODIFIER-13,2MODIFIER-14,2MODIFIER-15,2MODIFIER-16",
   "=1DF00,0ez d a FENG fz b TRILL,3as ic G,1a d c bs G,1d a as K,1a d c L b BELT",
   "1d a LEZH b cl aw,3bs Y b BELT,3as ENG,3bs R b eu LEG p cl aw,3T b aw p cl aw",
   "1a cl CLICK b cl aw,1d a ESH b m fe,7p CURL,3bs T b CURL,1a bc ga fk b CURL",
   "2STRETCHED C b CURL,2d c bs K,1d a L b FISHHOOK,3DEZH fz b ft aw,3L b BELT p ft aw",
   "3ENG b ft aw,3bs R b ft aw,3R b FISHHOOK p ft aw,3TESH fz b ft aw,3EZH b ft aw",
   "3DEZH fz b cl aw,3I b v p cl aw,3O b cl aw,3TESH fz b cl aw,3C b cl aw,3S b CURL,=1DF25",
   "3D b MID-HEIGHT l aw,3L b MID-HEIGHT l aw,3N b MID-HEIGHT l aw,3R b MID-HEIGHT l aw",
   "3S b MID-HEIGHT l aw,3T b MID-HEIGHT l aw"]

/-- Later scripts, numbers and game pieces. -/
def laterNames : List String :=
  ["=1E000,0ch GLAGOLITIC a AZU,3BUKY,3VEDE,3GLAGOLI,3DOBRO,3YESTU,3ZHIVETE,=1E008,3ZEMLJA,3IZHE",
   "3u IZHE,3I,3DJERVI,3KAKO,3LJUDIJE,3MYSLITE,3NASHI,3ONU,3POKOJI,3RITSI,3SLOVO,3TVRIDO,3UKU",
   "3FRITU,3HERU,=1E01B,3SHTA,3TSI,3CHRIVI,3je,3YERU,3YERI,3YATI,=1E023,3YU,3d YUS,=1E026,3YO",
   "3IOTATED d YUS,3BIG YUS,3IOTATED BIG YUS,3FITA,=1E030,0ds a ho d A,4BE,4VE,4GHE,4DE,4IE,4ZHE",
   "4ZE,4I,4KA,4EL,4EM,4O,4PE,4ER,4ES,4TE,4U,4EF,4HA,4TSE,4CHE,4je,4YERU,4E,4YU,4DZZE,4SCHWA,4iz I",
   "4JE,4BARRED O,4fg U,4PALOCHKA,0ho SUBSCRIPT d a A,4BE,4VE,4GHE,4DE,4IE,4ZHE,4ZE,4I,4KA,4EL,4O",
   "4PE,4ES,4U,4EF,4HA,4TSE,4CHE,4je,4HARD h,4YERU,4GHE b UPTURN,4iz I,4DZE,4DZHE",
   "0ds a ho d ES b cm,4YERU b BACK YER,4fg U b v,=1E08F,0ch ho d a iz I,=1E100",
   "0NYIAKENG PUACHUE HMONG a MA,4TSA,4NTA,4TA,4HA,4NA,4XA,4NKA,4CA,4LA,4SA,4ZA,4NCA,4NTSA,4KA,4DA",
   "4kb,4NRA,4VA,4NTXA,4TXA,4FA,4RA,4QA,4YA,4NQA,4PA,4XYA,4NPA,4DLA,4NPLA,4if,4MLA,4PLA,4GA,4RRA",
   "4A,4AA,4I,4U,4O,4OO,4E,4EE,4W,=1E130,3TONE-B,3TONE-M,3TONE-J,3TONE-V,3TONE-S,3TONE-G,3TONE-D",
   "3h FOR kh,5THING,5LOCATION,5ANIMAL,5INVERTEBRATE,4XW XW,3hp LENGTHENER,=1E140,3bp dq,4bl,4bo",
   "4s,4au,4ay,4et,4av,4ap,4ci,=1E14E,3LOGOGRAM NYAJ,3ct CA,=1E290,0TOTO a PA,2BA,2TA,2DA,2KA,2GA",
   "2MA,2NA,2jd,2SA,2jy,2YA,2WA,2JA,2HA,2RA,2LA,2I,2BREATHY I,2IU,2BREATHY IU,2U,2E,2BREATHY E,2EO",
   "2BREATHY EO,2O,2AE,2BREATHY AE,2A,1h RISING ew,=1E2C0,0WANCHO a AA,2A,2BA,2CA,2DA,2GA,2YA,2PHA",
   "2LA,2NA,2PA,2TA,2kp,2FA,2SA,2je,2JA,2ZA,2WA,2VA,2KA,2O,2AU,2RA,2MA,2ka,2HA,2E,2I,2jd,2U,2LLHA",
   "2TSA,2TRA,2ONG,2AANG,2ANG,2ING,2ON,2EN,2AAN,2kb,2UEN,2YIH,1ew TUP,2TUPNI,2KOI,2KOINI,1bp dq",
   "2bl,2bo,2s,2au,2ay,2et,2av,2ap,2ci,=1E2FF,1NGUN h,=1E4D0,0NAG MUNDARI a O,3OP,3OL,3OY,3ONG,3A",
   "3AJ,3AB,3ANY,3AH,3I,3IS,3IDD,3IT,3IH,3U,3UC,3UD,3UK,3UR,3E,3ENN,3EG,3EM,3EN,3ETT,3ELL,2h OJOD",
   "3MUHOR,3TOYOR,3IKIR,3SUTUH,2bp dq,3bl,3bo,3s,3au,3ay,3et,3av,3ap,3ci,=1E5D0,0OL ONAL a O,3OM",
   "3ONG,3ORR,3OO,3OY,3A,3AD,3AB,3AH,3AL,3AW,3I,3IT,3IP,3ITT,3ID,3IN,3U,3UK,3UDD,3UJ,3UNY,3UR,3E",
   "3ES,3EH,3EC,3ENN,3EG,2h MU,3IKIR,3HODDOND,2bp dq,3bl,3bo,3s,3au,3ay,3et,3av,3ap,3ci,=1E5FF",
   "2ec h,=1E7E0,0ETHIOPIC hp HHYA,2HHYU,2HHYI,2HHYAA,2HHYEE,2HHYE,2HHYO,=1E7E8,2GURAGE HHWA,2HHWI",
   "2HHWEE,2HHWE,=1E7ED,2GURAGE MWI,3MWEE,=1E7F0,3QWI,3QWEE,3QWE,3BWI,3BWEE,3KWI,3KWEE,3KWE,3GWI",
   "3GWEE,3GWE,3FWI,3FWEE,3PWI,3PWEE,=1E800,0MENDE KIKAKUI hp M001 KI,3M002 KA,3M003 KU,3M065 KEE",
   "3M095 KE,3M076 KOO,3M048 KO,3M179 KUA,3M004 WI,3M005 WA,3M006 WU,3M126 WEE,3M118 WE,3M114 WOO",
   "3M045 WO,3M194 WUI,3M143 WEI,3M061 WVI,3M049 WVA,3M139 WVE,3M007 MIN,3M008 MAN,3M009 MUN",
   "3M059 MEN,3M094 MON,3M154 MUAN,3M189 MUEN,3M010 BI,3M011 BA,3M012 BU,3M150 BEE,3M097 BE",
   "3M103 BOO,3M138 BO,3M013 I,3M014 A,3M015 U,3M163 EE,3M100 E,3M165 OO,3M147 O,3M137 EI,3M131 IN",
   "3M135 IN,3M195 AN,3M178 EN,3M019 SI,3M020 SA,3M021 SU,3M162 SEE,3M116 SE,3M136 SOO,3M079 SO",
   "3M196 SIA,3M025 LI,3M026 LA,3M027 LU,3M084 LEE,3M073 LE,3M054 LOO,3M153 LO,3M110 eu LE",
   "3M016 DI,3M017 DA,3M018 DU,3M089 DEE,3M180 DOO,3M181 DO,3M022 TI,3M023 TA,3M024 TU,3M091 TEE",
   "3M055 TE,3M104 TOO,3M069 TO,3M028 JI,3M029 JA,3M030 JU,3M157 JEE,3M113 JE,3M160 JOO,3M063 JO",
   "3M175 eu JO,3M031 YI,3M032 YA,3M033 YU,3M109 YEE,3M080 YE,3M141 YOO,3M121 YO,3M034 FI,3M035 FA",
   "3M036 FU,3M078 FEE,3M075 FE,3M133 FOO,3M088 FO,3M197 FUA,3M101 FAN,3M037 NIN,3M038 NAN",
   "3M039 NUN,3M117 NEN,3M169 NON,3M176 HI,3M041 HA,3M186 HU,3M040 HEE,3M096 HE,3M042 HOO,3M140 HO",
   "3M083 HEEI,3M128 HOOU,3M053 HIN,3M130 HAN,3M087 HUN,3M052 HEN,3M193 HON,3M046 HUAN,3M090 NGGI",
   "3M043 NGGA,3M082 NGGU,3M115 NGGEE,3M146 NGGE,3M156 NGGOO,3M120 NGGO,3M159 NGGAA,3M127 NGGUA",
   "3M086 eu NGGE,3M106 eu NGGOO,3M183 eu NGGO,3M155 GI,3M111 GA,3M168 GU,3M190 GEE,3M166 GUEI",
   "3M167 GUAN,3M184 NGEN,3M057 NGON,3M177 NGUAN,3M068 PI,3M099 PA,3M050 PU,3M081 PEE,3M051 PE",
   "3M102 POO,3M066 PO,3M145 MBI,3M062 MBA,3M122 MBU,3M047 MBEE,3M188 MBEE,3M072 MBE,3M172 MBOO",
   "3M174 MBO,3M187 MBUU,3M161 eu MBE,3M105 eu MBOO,3M142 eu MBO,3M132 KPI,3M092 KPA,3M074 KPU",
   "3M044 KPEE,3M108 KPE,3M112 KPOO,3M158 KPO,3M124 GBI,3M056 GBA,3M148 GBU,3M093 GBEE,3M107 GBE",
   "3M071 GBOO,3M070 GBO,3M171 RA,3M123 NDI,3M129 NDA,3M125 NDU,3M191 NDEE,3M119 NDE,3M067 NDOO",
   "3M064 NDO,3M152 NJA,3M192 NJU,3M149 NJEE,3M134 NJOO,3M182 VI,3M185 VA,3M151 VU,3M173 VEE",
   "3M085 VE,3M144 VOO,3M077 VO,3M164 NYIN,3M058 NYAN,3M170 NYUN,3M098 NYEN,3M060 NYON,=1E8C7",
   "2bp bl,3bo,3s,3au,3ay,3et,3av,3ap,3ci,2ch cx TEENS,4TENS,4HUNDREDS,4THOUSANDS,4iu THOUSANDS",
   "4ac THOUSANDS,4MILLIONS,=1E900,0ADLAM c a ALIF,3DAALI,3LAAM,3MIIM,3BA,3SINNYIIYHE,3PE,3BHE,3RA",
   "3E,3FA,3I,3O,3DHA,3YHE,3WAW,3NUN,3KAF,3YA,3U,3JIIM,3CHI,3HA,3QAAF,3GA,3kb,3TU,3NHA,3VA,3ka",
   "3GBE,3ZAL,3KPO,3je,1d a ALIF,3DAALI,3LAAM,3MIIM,3BA,3SINNYIIYHE,3PE,3BHE,3RA,3E,3FA,3I,3O,3DHA",
   "3YHE,3WAW,3NUN,3KAF,3YA,3U,3JIIM,3CHI,3HA,3QAAF,3GA,3kb,3TU,3NHA,3VA,3ka,3GBE,3ZAL,3KPO,3je",
   "1ALIF LENGTHENER,1bn LENGTHENER,1GEMINATION ah,1hi,1eb ds,1GEMINATE eb ds,1jn,1NASALIZATION ah",
   "=1E950,1bp dq,2bl,2bo,2s,2au,2ay,2et,2av,2ap,2ci,=1E95E,1u dd ah,2en ah,=1EC71",
   "0INDIC SIYAQ cx bl,3bo,3s,3au,3ay,3et,3av,3ap,3ci,3iu,3ey,3it,3FORTY,3hv,3SIXTY,3er,3EIGHTY",
   "3fi,3bl ac,3bo ac,3s ac,3au ac,3ay ac,3et ac,3av ac,3ap ac,3ci ac,3bl ad,3bo ad,3s ad,3au ad",
   "3ay ad,3et ad,3av ad,3ap ad,3ci ad,3iu ad,3ey ad,3it ad,3FORTY ad,3hv ad,3SIXTY ad,3er ad",
   "3EIGHTY ad,3fi ad,3LAKH,3LAKHAN,2LAKH ah,2cx KAROR,3KARORAN,3PREFIXED bl,4bo,4s,4au,4ay,4et",
   "4av,4ap,4ci,2PLACEHOLDER,2hc bl by,4bg,3s gf,2RUPEE ah,2cx ek bl,4bo,4iu ad,2ek LAKH ah,=1ED01",
   "0OTTOMAN SIYAQ cx bl,3bo,3s,3au,3ay,3et,3av,3ap,3ci,3iu,3ey,3it,3FORTY,3hv,3SIXTY,3er,3EIGHTY",
   "3fi,3bl ac,3bo ac,3s ac,3au ac,3ay ac,3et ac,3av ac,3ap ac,3ci ac,3bl ad,3bo ad,3s ad,3au ad",
   "3ay ad,3et ad,3av ad,3ap ad,3ci ad,3iu ad,3ey ad,3it ad,3FORTY ad,3hv ad,3SIXTY ad,3er ad",
   "3EIGHTY ad,3fi ad,2MARRATAN,2ek cx bo,4s,4au,4ay,4et,4av,4ap,4ci,4iu,4au ac,4et ac,4bo ad",
   "4iu ad,2hc bl bg,4SIXTH,=1EE00,0ix MATHEMATICAL de,2BEH,2es,2DAL,=1EE05,2WAW,2ZAIN,2if,2TAH",
   "2gp,2KAF,2LAM,2cf,2jl,2SEEN,2AIN,2FEH,2SAD,2QAF,2REH,2SHEEN,2TEH,2THEH,2hg,2THAL,2DAD,2ZAH",
   "2GHAIN,2ko BEH,3jl,3FEH,3QAF,=1EE21,2u BEH,3es,=1EE24,3HEH,=1EE27,3if,=1EE29,3gp,3KAF,3LAM,3cf",
   "3jl,3SEEN,3AIN,3FEH,3SAD,3QAF,=1EE34,3SHEEN,3TEH,3THEH,3hg,=1EE39,3DAD,=1EE3B,3GHAIN,=1EE42",
   "2TAILED es,=1EE47,3if,=1EE49,3gp,=1EE4B,3LAM,=1EE4D,3jl,3SEEN,3AIN,=1EE51,3SAD,3QAF,=1EE54",
   "3SHEEN,=1EE57,3hg,=1EE59,3DAD,=1EE5B,3GHAIN,=1EE5D,3ko jl,=1EE5F,4QAF,=1EE61,2STRETCHED BEH",
   "3es,=1EE64,3HEH,=1EE67,3if,3TAH,3gp,3KAF,=1EE6C,3cf,3jl,3SEEN,3AIN,3FEH,3SAD,3QAF,=1EE74",
   "3SHEEN,3TEH,3THEH,3hg,=1EE79,3DAD,3ZAH,3GHAIN,3ko BEH,=1EE7E,4FEH,=1EE80,2LOOPED de,3BEH,3es",
   "3DAL,3HEH,3WAW,3ZAIN,3if,3TAH,3gp,=1EE8B,3LAM,3cf,3jl,3SEEN,3AIN,3FEH,3SAD,3QAF,3REH,3SHEEN",
   "3TEH,3THEH,3hg,3THAL,3DAD,3ZAH,3GHAIN,=1EEA1,2gx BEH,3es,3DAL,=1EEA5,3WAW,3ZAIN,3if,3TAH,3gp",
   "=1EEAB,3LAM,3cf,3jl,3SEEN,3AIN,3FEH,3SAD,3QAF,3REH,3SHEEN,3TEH,3THEH,3hg,3THAL,3DAD,3ZAH",
   "3GHAIN,=1EEF0,2cv cf b if b TATWEEL,3if b DAL,=1F000,0MAHJONG TILE gh WIND,2gg WIND,2gz WIND",
   "2fo WIND,2RED DRAGON,2GREEN DRAGON,2z DRAGON,2bl OF kt,2bo OF kt,2s OF kt,2au OF kt,2ay OF kt",
   "2et OF kt,2av OF kt,2ap OF kt,2ci OF kt,2bl OF BAMBOOS,2bo OF BAMBOOS,2s OF BAMBOOS",
   "2au OF BAMBOOS,2ay OF BAMBOOS,2et OF BAMBOOS,2av OF BAMBOOS,2ap OF BAMBOOS,2ci OF BAMBOOS",
   "2bl OF lh,2bo OF lh,2s OF lh,2au OF lh,2ay OF lh,2et OF lh,2av OF lh,2ap OF lh,2ci OF lh,2PLUM",
   "2ORCHID,2BAMBOO,2CHRYSANTHEMUM,2SPRING,2SUMMER,2AUTUMN,2WINTER,2JOKER,2BACK,=1F030",
   "0DOMINO TILE t BACK,2HORIZONTAL-00-00,2HORIZONTAL-00-01,2HORIZONTAL-00-02,2HORIZONTAL-00-03",
   "2HORIZONTAL-00-04,2HORIZONTAL-00-05,2HORIZONTAL-00-06,2HORIZONTAL-01-00,2HORIZONTAL-01-01",
   "2HORIZONTAL-01-02,2HORIZONTAL-01-03,2HORIZONTAL-01-04,2HORIZONTAL-01-05,2HORIZONTAL-01-06",
   "2HORIZONTAL-02-00,2HORIZONTAL-02-01,2HORIZONTAL-02-02,2HORIZONTAL-02-03,2HORIZONTAL-02-04",
   "2HORIZONTAL-02-05,2HORIZONTAL-02-06,2HORIZONTAL-03-00,2HORIZONTAL-03-01,2HORIZONTAL-03-02",
   "2HORIZONTAL-03-03,2HORIZONTAL-03-04,2HORIZONTAL-03-05,2HORIZONTAL-03-06,2HORIZONTAL-04-00",
   "2HORIZONTAL-04-01,2HORIZONTAL-04-02,2HORIZONTAL-04-03,2HORIZONTAL-04-04,2HORIZONTAL-04-05",
   "2HORIZONTAL-04-06,2HORIZONTAL-05-00,2HORIZONTAL-05-01,2HORIZONTAL-05-02,2HORIZONTAL-05-03",
   "2HORIZONTAL-05-04,2HORIZONTAL-05-05,2HORIZONTAL-05-06,2HORIZONTAL-06-00,2HORIZONTAL-06-01",
   "2HORIZONTAL-06-02,2HORIZONTAL-06-03,2HORIZONTAL-06-04,2HORIZONTAL-06-05,2HORIZONTAL-06-06",
   "2n BACK,2VERTICAL-00-00,2VERTICAL-00-01,2VERTICAL-00-02,2VERTICAL-00-03,2VERTICAL-00-04",
   "2VERTICAL-00-05,2VERTICAL-00-06,2VERTICAL-01-00,2VERTICAL-01-01,2VERTICAL-01-02",
   "2VERTICAL-01-03,2VERTICAL-01-04,2VERTICAL-01-05,2VERTICAL-01-06,2VERTICAL-02-00",
   "2VERTICAL-02-01,2VERTICAL-02-02,2VERTICAL-02-03,2VERTICAL-02-04,2VERTICAL-02-05",
   "2VERTICAL-02-06,2VERTICAL-03-00,2VERTICAL-03-01,2VERTICAL-03-02,2VERTICAL-03-03",
   "2VERTICAL-03-04,2VERTICAL-03-05,2VERTICAL-03-06,2VERTICAL-04-00,2VERTICAL-04-01",
   "2VERTICAL-04-02,2VERTICAL-04-03,2VERTICAL-04-04,2VERTICAL-04-05,2VERTICAL-04-06",
   "2VERTICAL-05-00,2VERTICAL-05-01,2VERTICAL-05-02,2VERTICAL-05-03,2VERTICAL-05-04",
   "2VERTICAL-05-05,2VERTICAL-05-06,2VERTICAL-06-00,2VERTICAL-06-01,2VERTICAL-06-02",
   "2VERTICAL-06-03,2VERTICAL-06-04,2VERTICAL-06-05,2VERTICAL-06-06,=1F0A0,0PLAYING CARD BACK",
   "2ACE OF SPADES,2bo OF SPADES,2s OF SPADES,2au OF SPADES,2ay OF SPADES,2et OF SPADES",
   "2av OF SPADES,2ap OF SPADES,2ci OF SPADES,2iu OF SPADES,2JACK OF SPADES,2fs OF SPADES",
   "2QUEEN OF SPADES,2KING OF SPADES,=1F0B1,2ACE OF kv,2bo OF kv,2s OF kv,2au OF kv,2ay OF kv",
   "2et OF kv,2av OF kv,2ap OF kv,2ci OF kv,2iu OF kv,2JACK OF kv,2fs OF kv,2QUEEN OF kv",
   "2KING OF kv,2RED JOKER,=1F0C1,2ACE OF jf,2bo OF jf,2s OF jf,2au OF jf,2ay OF jf,2et OF jf",
   "2av OF jf,2ap OF jf,2ci OF jf,2iu OF jf,2JACK OF jf,2fs OF jf,2QUEEN OF jf,2KING OF jf",
   "2x JOKER,=1F0D1,2ACE OF CLUBS,2bo OF CLUBS,2s OF CLUBS,2au OF CLUBS,2ay OF CLUBS,2et OF CLUBS",
   "2av OF CLUBS,2ap OF CLUBS,2ci OF CLUBS,2iu OF CLUBS,2JACK OF CLUBS,2fs OF CLUBS",
   "2QUEEN OF CLUBS,2KING OF CLUBS,2z JOKER,2FOOL,2TRUMP-1,2TRUMP-2,2TRUMP-3,2TRUMP-4,2TRUMP-5",
   "2TRUMP-6,2TRUMP-7,2TRUMP-8,2TRUMP-9,2TRUMP-10,2TRUMP-11,2TRUMP-12,2TRUMP-13,2TRUMP-14",
   "2TRUMP-15,2TRUMP-16,2TRUMP-17,2TRUMP-18,2TRUMP-19,2TRUMP-20,2TRUMP-21,=1F100,0bp dq hm fk,2ed",
   "1bl ed,1bo ed,1s ed,1au ed,1ay ed,1et ed,1av ed,1ap ed,1ci ed,0DINGBAT ct eg bp dq",
   "1hy ct eg bp dq,0ct dq b SLASH,1dy f,1DOLLAR h b OVERLAID BACKSLASH,0PARENTHESIZED ez c a A,4B",
   "4C,4D,4E,4F,4G,4H,4I,4J,4K,4L,4M,4N,4O,4P,4Q,4R,4S,4T,4U,4V,4W,4X,4Y,4Z",
   "0hq ke BRACKETED ez c a S,0ct ITALIC ez c a C,5R,1CD,1WZ,0COPYLEFT y,0ei ez c a A,4B,4C,4D,4E",
   "4F,4G,4H,4I,4J,4K,4L,4M,4N,4O,4P,4Q,4R,4S,4T,4U,4V,4W,4X,4Y,4Z,1HV,1MV,1SD,1SS,1PPV,1WC",
   "0hy ct ez c a A,5B,5C,5D,5E,5F,5G,5H,5I,5J,5K,5L,5M,5N,5O,5P,5Q,5R,5S,5T,5U,5V,5W,5X,5Y,5Z",
   "0he MC h,1MD h,1MR h,0ct CC,1C b OVERLAID BACKSLASH,1HUMAN FIGURE,0hy ei ez c a A,5B,5C,5D,5E",
   "5F,5G,5H,5I,5J,5K,5L,5M,5N,5O,5P,5Q,5R,5S,5T,5U,5V,5W,5X,5Y,5Z,0li hy ei ez c a P,0hy ei IC",
   "2PA,2SA,2AB,2WC,0al DJ,0ei CL,1COOL,1FREE,1ID,1NEW,1NG,1OK,1SOS,1UP b dd ah,1VS,1s D",
   "1SECOND SCREEN,1bo K,1au K,1ap K,1ay POINT bl,1av POINT bl,1TWENTY-TWO POINT bo,1SIXTY P",
   "1bl ac ey P,1ez d a D,1HC,1HDR,1HI-RES,1LOSSLESS,1SHV,1UHD,1VOD,0MASK WORK y,=1F1E6",
   "0REGIONAL INDICATOR y a A,4B,4C,4D,4E,4F,4G,4H,4I,4J,4K,4L,4M,4N,4O,4P,4Q,4R,4S,4T,4U,4V,4W,4X",
   "4Y,4Z,0al HIRAGANA HOKA,0ei ll KOKO,2SA,=1F210,1CJK UNIFIED IDEOGRAPH-624B,3IDEOGRAPH-5B57",
   "3IDEOGRAPH-53CC,1ll DE,1CJK UNIFIED IDEOGRAPH-4E8C,3IDEOGRAPH-591A,3IDEOGRAPH-89E3",
   "3IDEOGRAPH-5929,3IDEOGRAPH-4EA4,3IDEOGRAPH-6620,3IDEOGRAPH-7121,3IDEOGRAPH-6599",
   "3IDEOGRAPH-524D,3IDEOGRAPH-5F8C,3IDEOGRAPH-518D,3IDEOGRAPH-65B0,3IDEOGRAPH-521D",
   "3IDEOGRAPH-7D42,3IDEOGRAPH-751F,3IDEOGRAPH-8CA9,3IDEOGRAPH-58F0,3IDEOGRAPH-5439",
   "3IDEOGRAPH-6F14,3IDEOGRAPH-6295,3IDEOGRAPH-6355,3IDEOGRAPH-4E00,3IDEOGRAPH-4E09",
   "3IDEOGRAPH-904A,3IDEOGRAPH-5DE6,3IDEOGRAPH-4E2D,3IDEOGRAPH-53F3,3IDEOGRAPH-6307",
   "3IDEOGRAPH-8D70,3IDEOGRAPH-6253,3IDEOGRAPH-7981,3IDEOGRAPH-7A7A,3IDEOGRAPH-5408",
   "3IDEOGRAPH-6E80,3IDEOGRAPH-6709,3IDEOGRAPH-6708,3IDEOGRAPH-7533,3IDEOGRAPH-5272",
   "3IDEOGRAPH-55B6,3IDEOGRAPH-914D,=1F240,0hq ke BRACKETED CJK UNIFIED IDEOGRAPH-672C",
   "5IDEOGRAPH-4E09,5IDEOGRAPH-4E8C,5IDEOGRAPH-5B89,5IDEOGRAPH-70B9,5IDEOGRAPH-6253",
   "5IDEOGRAPH-76D7,5IDEOGRAPH-52DD,5IDEOGRAPH-6557,=1F250,0ct IDEOGRAPH ADVANTAGE,2ACCEPT,=1F260",
   "0ROUNDED y FOR FU,3LU,3SHOU,3XI,3SHUANGXI,3CAI"]

/-- Emoji, shapes, arrows, tags and selectors. -/
def pictureNames : List String :=
  ["=1F300,0CYCLONE,0FOGGY,0el UMBRELLA,0NIGHT b STARS,0SUNRISE da MOUNTAINS,1,0CITYSCAPE AT DUSK",
   "0SUNSET da BUILDINGS,0RAINBOW,0BRIDGE AT NIGHT,0WATER WAVE,0VOLCANO,0MILKY WAY",
   "0EARTH GLOBE EUROPE-AFRICA,2AMERICAS,2ASIA-AUSTRALIA,0GLOBE b MERIDIANS,0NEW MOON y",
   "0WAXING CRESCENT MOON y,0FIRST by MOON y,0WAXING GIBBOUS MOON y,0hm MOON y",
   "0WANING GIBBOUS MOON y,0LAST by MOON y,0WANING CRESCENT MOON y,0CRESCENT MOON,0NEW MOON b cn",
   "0FIRST by MOON b cn,0LAST by MOON b cn,0hm MOON b cn,0SUN b cn,0GLOWING go,0SHOOTING go",
   "0THERMOMETER,0x DROPLET,0z SUN,2b d CLOUD,2BEHIND CLOUD,4b RAIN,0CLOUD b RAIN,2SNOW,2LIGHTNING",
   "2TORNADO,0FOG,0WIND BLOWING cn,0HOT DOG,0TACO,0BURRITO,0CHESTNUT,0SEEDLING,0EVERGREEN TREE",
   "0DECIDUOUS TREE,0PALM TREE,0CACTUS,0HOT PEPPER,0TULIP,0CHERRY BLOSSOM,0ROSE,0HIBISCUS",
   "0SUNFLOWER,0BLOSSOM,0EAR OF MAIZE,2RICE,0HERB,0au LEAF CLOVER,0MAPLE LEAF,0FALLEN LEAF",
   "0LEAF FLUTTERING IN WIND,0MUSHROOM,0TOMATO,0AUBERGINE,0GRAPES,0MELON,0WATERMELON,0TANGERINE",
   "0LEMON,0BANANA,0PINEAPPLE,0RED APPLE,0GREEN APPLE,0PEAR,0PEACH,0CHERRIES,0STRAWBERRY",
   "0HAMBURGER,0SLICE OF PIZZA,0MEAT ON BONE,0POULTRY LEG,0RICE CRACKER,1BALL,0COOKED RICE",
   "0CURRY p RICE,0STEAMING BOWL,0SPAGHETTI,0BREAD,0FRENCH FRIES,0ROASTED SWEET POTATO,0DANGO",
   "0ODEN,0SUSHI,0FRIED SHRIMP,0FISH CAKE b SWIRL DESIGN,0SOFT ICE CREAM,0SHAVED ICE,0ICE CREAM",
   "0DOUGHNUT,0COOKIE,0CHOCOLATE fe,0CANDY,0LOLLIPOP,0CUSTARD,0HONEY POT,0SHORTCAKE,0BENTO BOX",
   "0POT OF FOOD,0COOKING,0FORK p KNIFE,0TEACUP WITHOUT HANDLE,0SAKE BOTTLE p CUP,0WINE GLASS",
   "0COCKTAIL GLASS,0TROPICAL DRINK,0BEER MUG,0CLINKING BEER MUGS,0BABY BOTTLE",
   "0FORK p KNIFE b PLATE,0BOTTLE b POPPING CORK,0POPCORN,0RIBBON,0WRAPPED PRESENT,0BIRTHDAY CAKE",
   "0JACK-O-LANTERN,0CHRISTMAS TREE,0FATHER CHRISTMAS,0FIREWORKS,0FIREWORK SPARKLER,0BALLOON",
   "0PARTY POPPER,0CONFETTI BALL,0TANABATA TREE,0li FLAGS,0PINE DECORATION,0JAPANESE DOLLS",
   "0CARP STREAMER,0WIND CHIME,0MOON VIEWING CEREMONY,0SCHOOL SATCHEL,0GRADUATION CAP",
   "0ib b TIP ON THE l,0BOUQUET OF FLOWERS,0MILITARY MEDAL,0REMINDER RIBBON",
   "0MUSICAL KEYBOARD b JACKS,0STUDIO MICROPHONE,0LEVEL SLIDER,0CONTROL KNOBS",
   "0BEAMED ASCENDING MUSICAL NOTES,1DESCENDING MUSICAL NOTES,0FILM FRAMES,0ADMISSION TICKETS",
   "0CAROUSEL HORSE,0FERRIS WHEEL,0ROLLER COASTER,0FISHING POLE p FISH,0MICROPHONE,0MOVIE CAMERA",
   "0CINEMA,0HEADPHONE,0ARTIST PALETTE,0kr HAT,0CIRCUS TENT,0TICKET,0CLAPPER BOARD",
   "0PERFORMING ARTS,0VIDEO GAME,0DIRECT HIT,0SLOT MACHINE,0BILLIARDS,0GAME DIE,0BOWLING",
   "0FLOWER PLAYING CARDS,0MUSICAL NOTE,0js MUSICAL NOTES,0SAXOPHONE,0GUITAR,0MUSICAL KEYBOARD",
   "0TRUMPET,0VIOLIN,0MUSICAL SCORE,0RUNNING SHIRT b SASH,0TENNIS RACQUET p BALL,0SKI p SKI BOOT",
   "0BASKETBALL p HOOP,0CHEQUERED FLAG,0SNOWBOARDER,0RUNNER,0SURFER,0SPORTS MEDAL,0TROPHY",
   "0HORSE RACING,0AMERICAN FOOTBALL,0RUGBY FOOTBALL,0SWIMMER,0WEIGHT LIFTER,0GOLFER",
   "0RACING MOTORCYCLE,1CAR,0CRICKET BAT p BALL,0VOLLEYBALL,0FIELD HOCKEY STICK p BALL",
   "0ICE HOCKEY STICK p PUCK,0TABLE TENNIS PADDLE p BALL,0SNOW CAPPED MOUNTAIN,0CAMPING",
   "0BEACH b UMBRELLA,0BUILDING CONSTRUCTION,0HOUSE BUILDINGS,0CITYSCAPE,0DERELICT HOUSE BUILDING",
   "0CLASSICAL BUILDING,0DESERT,1ISLAND,0NATIONAL PARK,0STADIUM,0HOUSE BUILDING,1b GARDEN",
   "0OFFICE BUILDING,0JAPANESE POST OFFICE,0EUROPEAN POST OFFICE,0HOSPITAL,0BANK",
   "0AUTOMATED TELLER MACHINE,0HOTEL,0LOVE HOTEL,0CONVENIENCE STORE,0SCHOOL,0DEPARTMENT STORE",
   "0FACTORY,0IZAKAYA LANTERN,0JAPANESE CASTLE,0EUROPEAN CASTLE,0z PENNANT,0x PENNANT",
   "0WAVING z FLAG,1x FLAG,0ROSETTE,0x ROSETTE,0LABEL,0BADMINTON RACQUET p SHUTTLECOCK,0BOW p f",
   "0AMPHORA,0EMOJI ds FITZPATRICK TYPE-1-2,3TYPE-3,3TYPE-4,3TYPE-5,3TYPE-6,0RAT,0MOUSE,0OX",
   "0WATER BUFFALO,0COW,0TIGER,0LEOPARD,0RABBIT,0CAT,0DRAGON,0CROCODILE,0WHALE,0SNAIL,0SNAKE",
   "0HORSE,0RAM,0GOAT,0SHEEP,0MONKEY,0ROOSTER,0CHICKEN,0DOG,0PIG,0BOAR,0ELEPHANT,0OCTOPUS",
   "0SPIRAL ke,0BUG,0ANT,0HONEYBEE,0LADY BEETLE,0FISH,0TROPICAL FISH,0BLOWFISH,0TURTLE",
   "0HATCHING CHICK,0BABY CHICK,0FRONT-FACING BABY CHICK,0BIRD,0PENGUIN,0KOALA,0POODLE",
   "0DROMEDARY CAMEL,0BACTRIAN CAMEL,0DOLPHIN,0MOUSE cn,0COW cn,0TIGER cn,0RABBIT cn,0CAT cn",
   "0DRAGON cn,0SPOUTING WHALE,0HORSE cn,0MONKEY cn,0DOG cn,0PIG cn,0FROG cn,0HAMSTER cn,0WOLF cn",
   "0BEAR cn,0PANDA cn,0PIG NOSE,0PAW PRINTS,0CHIPMUNK,0EYES,0EYE,0EAR,0NOSE,0hx,0TONGUE",
   "0z UP bf BACKHAND bv,1cq bf BACKHAND bv,1l bf BACKHAND bv,1g bf BACKHAND bv,0FISTED kk h",
   "0WAVING kk h,0OK kk h,0THUMBS UP h,1cq h,0CLAPPING HANDS h,0dv HANDS h,0CROWN,0WOMANS HAT",
   "0EYEGLASSES,0NECKTIE,0T-SHIRT,0JEANS,0DRESS,0KIMONO,0BIKINI,0WOMANS CLOTHES,0PURSE,0HANDBAG",
   "0POUCH,0MANS SHOE,0ATHLETIC SHOE,0HIGH-HEELED SHOE,0WOMANS SANDAL,1BOOTS,0FOOTPRINTS",
   "0BUST IN SILHOUETTE,0BUSTS IN SILHOUETTE,0BOY,0GIRL,0MAN,0WOMAN,0FAMILY",
   "0MAN p WOMAN HOLDING HANDS,0bo MEN HOLDING HANDS,1WOMEN HOLDING HANDS,0POLICE OFFICER",
   "0WOMAN b BUNNY EARS,0BRIDE b VEIL,0kh b BLOND HAIR,0MAN b GUA PI MAO,2TURBAN,0OLDER MAN,1WOMAN",
   "0BABY,0CONSTRUCTION WORKER,0PRINCESS,0JAPANESE OGRE,1GOBLIN,0GHOST,0BABY ANGEL",
   "0EXTRATERRESTRIAL ALIEN,0ALIEN MONSTER,0IMP,0SKULL,0INFORMATION DESK kh,0GUARDSMAN,0DANCER",
   "0LIPSTICK,0NAIL POLISH,0cn MASSAGE,0HAIRCUT,0BARBER POLE,0SYRINGE,0PILL,0KISS ah,0LOVE a,0do",
   "0GEM STONE,0KISS,0BOUQUET,0COUPLE b ib,0WEDDING,0BEATING ib,0BROKEN ib,0bo kv,0SPARKLING ib",
   "0GROWING ib,0ib b f,0BLUE ib,0GREEN ib,0YELLOW ib,0PURPLE ib,0ib b RIBBON,0REVOLVING kv",
   "0ib DECORATION,0dp SHAPE b A cg jr,0ELECTRIC bq BULB,0ANGER y,0BOMB,0SLEEPING y,0COLLISION y",
   "0SPLASHING SWEAT y,0DROPLET,0in y,0PILE OF POO,0FLEXED BICEPS,0DIZZY y,0SPEECH BALLOON",
   "0THOUGHT BALLOON,0z FLOWER,0ac POINTS y,0MONEY BAG,0CURRENCY EXCHANGE,0am DOLLAR h",
   "0CREDIT CARD,0BANKNOTE b YEN h,2DOLLAR h,2EURO h,2POUND h,0MONEY b WINGS",
   "0CHART b ar TREND p YEN h,0SEAT,0PERSONAL COMPUTER,0BRIEFCASE,0MINIDISC,0FLOPPY DISK",
   "0OPTICAL DISC,0DVD,0FILE FOLDER,0dv FILE FOLDER,0PAGE b CURL,1FACING UP,0CALENDAR",
   "0TEAR-OFF CALENDAR,0CARD bv,0CHART b ar TREND,2ab TREND,0fe CHART,0CLIPBOARD,0PUSHPIN",
   "0ROUND PUSHPIN,0PAPERCLIP,0fg RULER,0eo RULER,0BOOKMARK TABS,0LEDGER,0NOTEBOOK",
   "1b DECORATIVE COVER,0el BOOK,0dv BOOK,0GREEN BOOK,0BLUE BOOK,0ORANGE BOOK,0BOOKS,0NAME BADGE",
   "0SCROLL,0MEMO,0jj RECEIVER,0PAGER,0FAX MACHINE,0SATELLITE ANTENNA,0PUBLIC ADDRESS LOUDSPEAKER",
   "0CHEERING MEGAPHONE,0OUTBOX TRAY,0INBOX TRAY,0PACKAGE,0E-MAIL y,0INCOMING ENVELOPE",
   "0ENVELOPE b ab f i,0el MAILBOX b LOWERED FLAG,3he FLAG,0dv MAILBOX b he FLAG,3LOWERED FLAG",
   "0POSTBOX,0POSTAL kf,0NEWSPAPER,0MOBILE PHONE,2b k f AT l,0VIBRATION MODE,0MOBILE PHONE OFF",
   "0NO MOBILE PHONES,0ANTENNA b BARS,0CAMERA,1b FLASH,0VIDEO CAMERA,0TELEVISION,0RADIO",
   "0VIDEOCASSETTE,0FILM PROJECTOR,0PORTABLE STEREO,0PRAYER BEADS,0TWISTED k le,0is k p r dv ai le",
   "7b ct bl gr,1ab p ar dv ai le,0dy ab p ar dv ai le,0hw BRIGHTNESS y,0fb BRIGHTNESS y",
   "0SPEAKER b CANCELLATION v,1,1b bl SOUND WAVE,2s SOUND WAVES,0BATTERY,0ELECTRIC PLUG",
   "0bm MAGNIFYING GLASS,0ax MAGNIFYING GLASS,0LOCK b INK PEN,0el LOCK b KEY,0KEY,0LOCK,0dv LOCK",
   "0BELL,1b CANCELLATION v,0BOOKMARK,0LINK y,0RADIO BUTTON,0BACK b r f i,0END b r f i",
   "0ON b dd ah b l g f i,0SOON b k f i,0kr b ar f i,0NO bl UNDER EIGHTEEN y,0KEYCAP iu",
   "0INPUT y FOR ez c LETTERS,4d LETTERS,3NUMBERS,3SYMBOLS,3ez LETTERS,0FIRE,0ELECTRIC TORCH",
   "0WRENCH,0HAMMER,0NUT p BOLT,0HOCHO,0PISTOL,0MICROSCOPE,0TELESCOPE,0CRYSTAL BALL",
   "0et eh go b aa cg,0JAPANESE y FOR BEGINNER,0TRIDENT EMBLEM,0x al BUTTON,0z al BUTTON",
   "0dg RED ai,1BLUE ai,1ORANGE dp,1BLUE dp,0d ORANGE dp,1BLUE dp,0dm RED ag,0df RED ag",
   "0dm d RED ag,0df d RED ag,0aq g ju z ai,0ba g ju z ai,0ct fv POMMEE,0fv POMMEE b HALF-CIRCLE o",
   "2,0NOTCHED l SEMICIRCLE b s cy,1g SEMICIRCLE b s cy,0y FOR MARKS CHAPTER,0z ez fv,0am ez fv",
   "0CELTIC fv,0OM y,0DOVE OF PEACE,0KAABA,0MOSQUE,0SYNAGOGUE,0MENORAH b ci BRANCHES",
   "0BOWL OF HYGIEIA,0CLOCK cn bl OCLOCK,2bo OCLOCK,2s OCLOCK,2au OCLOCK,2ay OCLOCK,2et OCLOCK",
   "2av OCLOCK,2ap OCLOCK,2ci OCLOCK,2iu OCLOCK,2ELEVEN OCLOCK,2TWELVE OCLOCK,2ONE-THIRTY",
   "2TWO-THIRTY,2THREE-THIRTY,2FOUR-THIRTY,2FIVE-THIRTY,2SIX-THIRTY,2SEVEN-THIRTY,2EIGHT-THIRTY",
   "2NINE-THIRTY,2TEN-THIRTY,2ELEVEN-THIRTY,2TWELVE-THIRTY,0g SPEAKER,2b bl SOUND WAVE",
   "3s SOUND WAVES,0BULLHORN,1b SOUND WAVES,0RINGING BELL,0BOOK,0CANDLE,0MANTELPIECE CLOCK",
   "0x SKULL p CROSSBONES,0NO PIRACY,0HOLE,0MAN IN BUSINESS SUIT LEVITATING,0SLEUTH OR SPY",
   "0DARK SUNGLASSES,0SPIDER,1WEB,0JOYSTICK,0MAN DANCING,0l kk jj RECEIVER,0jj RECEIVER b PAGE",
   "0g kk jj RECEIVER,0z TOUCHTONE jj,0x TOUCHTONE jj,0jj ON kr OF MODEM,0CLAMSHELL MOBILE PHONE",
   "0BACK OF ENVELOPE,0STAMPED ENVELOPE,0ENVELOPE b LIGHTNING,0FLYING ENVELOPE",
   "0PEN da STAMPED ENVELOPE,0LINKED PAPERCLIPS,0x PUSHPIN,0aq l PENCIL,2BALLPOINT PEN",
   "2FOUNTAIN PEN,2PAINTBRUSH,2CRAYON,0l WRITING kk,0bs OK kk h,0he kk b gq SPLAYED",
   "0as he kk b gq SPLAYED,1THUMBS UP h,2cq h,1VICTORY kk,1kk b aa FINGER EXTENDED",
   "0he kk b PART iy aa p do gq,0z cq bf l kk bv,0SIDEWAYS z l bf bv,2g bf bv,1x l bf bv,2g bf bv",
   "0x l bf BACKHAND bv,1g bf BACKHAND bv,0SIDEWAYS z UP bf bv,2cq bf bv,1x UP bf bv,2cq bf bv",
   "0x UP bf BACKHAND bv,1cq bf BACKHAND bv,1ib,0DESKTOP COMPUTER,0KEYBOARD p MOUSE",
   "0s NETWORKED COMPUTERS,0PRINTER,0POCKET CALCULATOR,0x HARD ke FLOPPY DISK",
   "0z HARD ke FLOPPY DISK,0SOFT ke FLOPPY DISK,0TAPE CARTRIDGE,0WIRED KEYBOARD,0bl BUTTON MOUSE",
   "0bo BUTTON MOUSE,0s BUTTON MOUSE,0TRACKBALL,0OLD PERSONAL COMPUTER,0HARD DISK,0SCREEN",
   "0PRINTER ICON,0FAX ICON,0OPTICAL DISC ICON,0DOCUMENT b TEXT,3p PICTURE,2PICTURE",
   "0FRAME b PICTURE,2TILES,2AN X,0x FOLDER,0FOLDER,0dv FOLDER,0CARD bv DIVIDERS,1FILE BOX",
   "0FILE CABINET,0EMPTY NOTE,2PAGE,2PAD,0NOTE,1PAGE,1PAD,0EMPTY DOCUMENT,1PAGE,1PAGES,0DOCUMENT",
   "0PAGE,0PAGES,0WASTEBASKET,0SPIRAL NOTE PAD,1CALENDAR PAD,0DESKTOP WINDOW,0MINIMIZE,0MAXIMIZE",
   "0OVERLAP,0is g p l SEMICIRCLE le,0CANCELLATION X,0INCREASE FONT SIZE y,0DECREASE FONT SIZE y",
   "0COMPRESSION,0OLD KEY,0ROLLED-UP NEWSPAPER,0PAGE b ct TEXT,0STOCK CHART,0DAGGER KNIFE,0LIPS",
   "0SPEAKING HEAD IN SILHOUETTE,0s RAYS i,2o,2l,2g,0l SPEECH BUBBLE,0g SPEECH BUBBLE",
   "0bo SPEECH BUBBLES,0s SPEECH BUBBLES,0l THOUGHT BUBBLE,0g THOUGHT BUBBLE,0l ANGER BUBBLE",
   "0g ANGER BUBBLE,0MOOD BUBBLE,0LIGHTNING MOOD BUBBLE,2,0BALLOT BOX b BALLOT,1ic X,1BOX b ic X",
   "1BOLD ic X,1BOX b BOLD ic X,0bq CHECK ah,0BALLOT BOX b BOLD CHECK,0WORLD MAP,0MOUNT FUJI",
   "0TOKYO TOWER,0STATUE OF LIBERTY,0SILHOUETTE OF JAPAN,0MOYAI,0GRINNING cn,2b ih EYES",
   "0cn b TEARS OF JOY,0ih cn b dv hx,5p ih EYES,6COLD SWEAT,6TIGHTLY-CLOSED EYES,3HALO,3HORNS",
   "0WINKING cn,0ih cn b ih EYES,0cn SAVOURING DELICIOUS FOOD,0RELIEVED cn",
   "0ih cn b HEART-SHAPED EYES,3SUNGLASSES,0SMIRKING cn,0gm cn,0EXPRESSIONLESS cn,0UNAMUSED cn",
   "0cn b COLD SWEAT,0PENSIVE cn,0CONFUSED cn,0CONFOUNDED cn,0KISSING cn,0cn THROWING A KISS",
   "0KISSING cn b ih EYES,3el EYES,0cn b STUCK-OUT TONGUE,4p WINKING EYE,5TIGHTLY-CLOSED EYES",
   "0DISAPPOINTED cn,0WORRIED cn,0ANGRY cn,0POUTING cn,0CRYING cn,0PERSEVERING cn",
   "0cn b LOOK OF TRIUMPH,0DISAPPOINTED BUT RELIEVED cn,0FROWNING cn b dv hx,0ANGUISHED cn",
   "0FEARFUL cn,0WEARY cn,0SLEEPY cn,0TIRED cn,0GRIMACING cn,0LOUDLY CRYING cn,0cn b dv hx",
   "0HUSHED cn,0cn b dv hx p COLD SWEAT,1SCREAMING IN FEAR,0ASTONISHED cn,0FLUSHED cn,0SLEEPING cn",
   "0DIZZY cn,0cn WITHOUT hx,1b MEDICAL MASK,0GRINNING CAT cn b ih EYES,0CAT cn b TEARS OF JOY",
   "0ih CAT cn b dv hx,4HEART-SHAPED EYES,0CAT cn b WRY SMILE,0KISSING CAT cn b el EYES",
   "0POUTING CAT cn,0CRYING CAT cn,0WEARY CAT cn,0SLIGHTLY FROWNING cn,1ih cn,0UPSIDE-DOWN cn",
   "0cn b ROLLING EYES,2NO GOOD GESTURE,2OK GESTURE,0kh BOWING DEEPLY,0SEE-NO-EVIL MONKEY",
   "0HEAR-NO-EVIL MONKEY,0SPEAK-NO-EVIL MONKEY,0HAPPY kh RAISING bl kk",
   "0kh RAISING BOTH HANDS IN CELEBRATION,1FROWNING,1b POUTING cn,2FOLDED HANDS,0fo gz bf LEAF",
   "0gg gz bf LEAF,0fo gh bf LEAF,0gg gh bf LEAF,0bs fo gz bf LEAF,1gg gz bf LEAF,1fo gh bf LEAF",
   "1gg gh bf LEAF,0fo gz bf VINE LEAF,0gg gz bf VINE LEAF,0fo gh bf VINE LEAF,0gg gh bf VINE LEAF",
   "0am fo gz bf VINE LEAF,1gg gz bf VINE LEAF,1fo gh bf VINE LEAF,1gg gh bf VINE LEAF",
   "0fo gz bf BUD,0gg gz bf BUD,0fo gh bf BUD,0gg gh bf BUD,0am fo gz bf BUD,1gg gz bf BUD",
   "1fo gh bf BUD,1gg gh bf BUD,0HOLLOW QUILT al cb,4IN x al,0SOLID QUILT al cb,4IN x al,0r ROCKET",
   "0ar ROCKET,0k ROCKET,0ab ROCKET,0ic dr ET cb,0am ic dr ET cb,0dr dv ET cb,0am dr dv ET cb",
   "1AMPERSAND cb,0SWASH AMPERSAND cb,0eg am m bs ed dn ah cb,3ed dn ah cb,2hw m ed dn ah cb",
   "0am INTERROBANG cb,0eg INTERROBANG cb,0am eg INTERROBANG cb,0VERY am gs,2hj gs,0CHECKER BOARD",
   "0hj CHECKER BOARD,0ROCKET,0HELICOPTER,0STEAM LOCOMOTIVE,0RAILWAY CAR,0HIGH-SPEED TRAIN",
   "2b BULLET NOSE,0TRAIN,0METRO,0bq RAIL,0STATION,0TRAM,1CAR,0BUS,0ONCOMING BUS,0TROLLEYBUS",
   "0BUS fk,0MINIBUS,0AMBULANCE,0FIRE ENGINE,0POLICE CAR,0ONCOMING POLICE CAR,0TAXI,0ONCOMING TAXI",
   "0AUTOMOBILE,0ONCOMING AUTOMOBILE,0RECREATIONAL VEHICLE,0DELIVERY TRUCK,0ARTICULATED LORRY",
   "0TRACTOR,0MONORAIL,0MOUNTAIN RAILWAY,0SUSPENSION RAILWAY,0MOUNTAIN CABLEWAY,0AERIAL TRAMWAY",
   "0SHIP,0ROWBOAT,0SPEEDBOAT,0t TRAFFIC bq,0n TRAFFIC bq,0CONSTRUCTION h",
   "0POLICE CARS REVOLVING bq,0eo FLAG ON POST,0DOOR,0NO ENTRY h,0SMOKING y,0NO SMOKING y",
   "0PUT LITTER IN ITS PLACE y,0DO NOT LITTER y,0POTABLE WATER y,0NON-POTABLE WATER y,0BICYCLE",
   "0NO BICYCLES,0BICYCLIST,0MOUNTAIN BICYCLIST,0PEDESTRIAN,0NO PEDESTRIANS,0CHILDREN ee,0MENS y",
   "0WOMENS y,0RESTROOM,0BABY y,0TOILET,0WATER CLOSET,0SHOWER,0BATH,0BATHTUB,0PASSPORT CONTROL",
   "0CUSTOMS,0BAGGAGE CLAIM,0l LUGGAGE,0ag b ROUNDED CORNERS,0PROHIBITED h,0ct INFORMATION SOURCE",
   "0BOYS y,0GIRLS y,0COUCH p LAMP,0SLEEPING ACCOMMODATION,0SHOPPING BAGS,0BELLHOP BELL,0BED",
   "0PLACE OF WORSHIP,0OCTAGONAL h,0SHOPPING TROLLEY,0STUPA,0PAGODA,0HINDU TEMPLE,0HUT,0ELEVATOR",
   "=1F6DC,0WIRELESS,0PLAYGROUND SLIDE,0WHEEL,0do BUOY,0HAMMER p WRENCH,0SHIELD,0OIL DRUM",
   "0MOTORWAY,0RAILWAY TRACK,0MOTOR BOAT,0dm MILITARY AIRPLANE,1AIRPLANE,1d AIRPLANE,0d AIRPLANE",
   "0NORTHEAST-POINTING AIRPLANE,0AIRPLANE DEPARTURE,1ARRIVING,=1F6F0,0SATELLITE",
   "0ONCOMING FIRE ENGINE,0DIESEL LOCOMOTIVE,0PASSENGER SHIP,0SCOOTER,0MOTOR SCOOTER,0CANOE,0SLED",
   "0FLYING SAUCER,0SKATEBOARD,0AUTO RICKSHAW,0PICKUP TRUCK,0ROLLER SKATE,=1F700",
   "0ALCHEMICAL y FOR QUINTESSENCE,3AIR,3FIRE,3EARTH,3WATER,3AQUAFORTIS,3AQUA REGIA,4REGIA-2",
   "4VITAE,4VITAE-2,3VINEGAR,3VINEGAR-2,3VINEGAR-3,3SULFUR,3PHILOSOPHERS SULFUR,3x SULFUR",
   "3MERCURY SUBLIMATE,4SUBLIMATE-2,4SUBLIMATE-3,3CINNABAR,3SALT,3NITRE,3VITRIOL,3VITRIOL-2",
   "3ROCK SALT,4SALT-2,3GOLD,3SILVER,3IRON ORE,4ORE-2,3CROCUS OF IRON,3REGULUS OF IRON,3COPPER ORE",
   "3IRON-COPPER ORE,3SUBLIMATE OF COPPER,3CROCUS OF COPPER,5COPPER-2,3COPPER ANTIMONIATE",
   "3SALT OF COPPER ANTIMONIATE,3SUBLIMATE OF SALT OF COPPER,3VERDIGRIS,3TIN ORE,3LEAD ORE",
   "3ANTIMONY ORE,3SUBLIMATE OF ANTIMONY,3SALT OF ANTIMONY,3SUBLIMATE OF SALT OF ANTIMONY",
   "3VINEGAR OF ANTIMONY,3REGULUS OF ANTIMONY,5ANTIMONY-2,4,3REGULUS-2,3REGULUS-3,3REGULUS-4",
   "3ALKALI,3ALKALI-2,3MARCASITE,3SAL-AMMONIAC,3ARSENIC,3REALGAR,3REALGAR-2,3AURIPIGMENT",
   "3BISMUTH ORE,3TARTAR,3TARTAR-2,3QUICK LIME,3BORAX,3BORAX-2,3BORAX-3,3ALUM,3OIL,3SPIRIT",
   "3TINCTURE,3GUM,3WAX,3POWDER,3CALX,3TUTTY,3CAPUT MORTUUM,3SCEPTER OF JOVE,3CADUCEUS,3TRIDENT",
   "3STARRED TRIDENT,3LODESTONE,3SOAP,3URINE,3HORSE DUNG,3ASHES,3POT ASHES,3BRICK,3POWDERED BRICK",
   "3AMALGAM,3STRATUM SUPER STRATUM,5STRATUM-2,3SUBLIMATION,3PRECIPITATE,3DISTILL,3DISSOLVE",
   "3DISSOLVE-2,3PURIFY,3PUTREFACTION,3CRUCIBLE,3CRUCIBLE-2,3CRUCIBLE-3,3CRUCIBLE-4,3CRUCIBLE-5",
   "3ALEMBIC,3BATH OF MARY,5VAPOURS,3RETORT,3HOUR,3NIGHT,3DAY-NIGHT,3MONTH,3bg DRAM,4OUNCE",
   "0LOT OF FORTUNE,0OCCULTATION,0LUNAR ECLIPSE,=1F77B,0HAUMEA,0MAKEMAKE,0GONGGONG,0QUAOAR,0ORCUS",
   "0x bm ISOSCELES g ag,1dm ISOSCELES g ag,1ax ISOSCELES g ag,1df ISOSCELES g ag,1SLIGHTLY d ai",
   "0bh BOLD z ai,0BOLD z ai,0am z ai,0VERY am z ai,0EXTREMELY am z ai,0z ai ku x d ai",
   "0ROUND TARGET,0x TINY al,1SLIGHTLY d al,0bq z al,0bh z al,0BOLD z al,0am z al,0VERY am z al",
   "0EXTREMELY am z al,0z al ku x VERY d al,4bh al,0al TARGET,0x TINY dp,1VERY d dp,1bh d dp",
   "0z dp ku x VERY d dp,4bh dp,0dp TARGET,0x TINY LOZENGE,1VERY d LOZENGE,1bh d LOZENGE",
   "0z LOZENGE ku x d LOZENGE,0THIN jq fv,0bq jq fv,0bh jq fv,0BOLD jq fv,0VERY BOLD jq fv",
   "1am jq fv,0EXTREMELY am jq fv,0THIN SALTIRE,0bq SALTIRE,0bh SALTIRE,0BOLD SALTIRE,0am SALTIRE",
   "0VERY am SALTIRE,0EXTREMELY am SALTIRE,0bq ay kj cs,0bh ay kj cs,0BOLD ay kj cs,0am ay kj cs",
   "0VERY am ay kj cs,0EXTREMELY am ay kj cs,0bq et kj cs,0bh et kj cs,0BOLD et kj cs,0am et kj cs",
   "0VERY am et kj cs,0EXTREMELY am et kj cs,0bq ap kj cs,0bh ap kj cs,0BOLD ap kj cs,0am ap kj cs",
   "0VERY am ap kj cs,0bq s eh x go,0bh s eh x go,0s eh x go,0bh s eh PINWHEEL go,0bq au eh x go",
   "0bh au eh x go,0au eh x go,0bh au eh PINWHEEL go,0hj bq au eh PINWHEEL go,0bq ay eh x go",
   "0am ay eh x go,0bh et eh x go,0am et eh x go,0et eh PINWHEEL go,0bh ap eh x go,0am ap eh x go",
   "0VERY am ap eh x go,0am ap eh PINWHEEL go,0bq TWELVE eh x go,0am TWELVE eh x go,3PINWHEEL go",
   "0ct ag,0hy ct ag,0ct al,0hy ct al,0ci eh z go,=1F7E0,0dg ORANGE ai,1YELLOW ai,1GREEN ai",
   "1PURPLE ai,1BROWN ai,1RED al,1BLUE al,1ORANGE al,1YELLOW al,1GREEN al,1PURPLE al,1BROWN al",
   "=1F7F0,0am fx h,=1F800,0r f b d ag ao,0ar f b d ag ao,0k f b d ag ao,0ab f b d ag ao",
   "0r f b bh ag ao,0ar f b bh ag ao,0k f b bh ag ao,0ab f b bh ag ao,0r f b dg ag ao",
   "0ar f b dg ag ao,0k f b dg ag ao,0ab f b dg ag ao,=1F810,0r f b d dk ao,0ar f b d dk ao",
   "0k f b d dk ao,0ab f b d dk ao,0r f b dk ao,0ar f b dk ao,0k f b dk ao,0ab f b dk ao",
   "0am r f b dk ao,1ar f b dk ao,1k f b dk ao,1ab f b dk ao,1r f b dg dk ao,1ar f b dg dk ao",
   "1k f b dg dk ao,1ab f b dg dk ao,0r w f b NARROW lc,0ar w f b NARROW lc,0k w f b NARROW lc",
   "0ab w f b NARROW lc,0r w f b bh lc,0ar w f b bh lc,0k w f b bh lc,0ab w f b bh lc",
   "0r w f b BOLD lc,0ar w f b BOLD lc,0k w f b BOLD lc,0ab w f b BOLD lc,0r w f b am lc",
   "0ar w f b am lc,0k w f b am lc,0ab w f b am lc,0r w f b VERY am lc,0ar w f b VERY am lc",
   "0k w f b VERY am lc,0ab w f b VERY am lc,0r FINGER-POST f,0ar FINGER-POST f,0k FINGER-POST f",
   "0ab FINGER-POST f,0r ei f,0ar ei f,0k ei f,0ab ei f,0r COMPRESSED f,0ar COMPRESSED f",
   "0k COMPRESSED f,0ab COMPRESSED f,0r am COMPRESSED f,0ar am COMPRESSED f,0k am COMPRESSED f",
   "0ab am COMPRESSED f,0r am f,0ar am f,0k am f,0ab am f,=1F850,0r eg f,0ar eg f,0k eg f,0ab eg f",
   "0fo gz eg f,1gh eg f,0gg gh eg f,1gz eg f,0l g eg f,0UP cq eg f,=1F860,0WIDE-HEADED r bq du f",
   "1ar bq du f,1k bq du f,1ab bq du f,1fo gz bq du f,2gh bq du f,1gg gh bq du f,2gz bq du f",
   "1r du f,1ar du f,1k du f,1ab du f,1fo gz du f,2gh du f,1gg gh du f,2gz du f,1r bh du f",
   "1ar bh du f,1k bh du f,1ab bh du f,1fo gz bh du f,2gh bh du f,1gg gh bh du f,2gz bh du f",
   "1r am du f,1ar am du f,1k am du f,1ab am du f,1fo gz am du f,2gh am du f,1gg gh am du f",
   "2gz am du f,1r VERY am du f,1ar VERY am du f,1k VERY am du f,1ab VERY am du f",
   "1fo gz VERY am du f,2gh VERY am du f,1gg gh VERY am du f,2gz VERY am du f,=1F890,0r ag ao",
   "0ar ag ao,0k ag ao,0ab ag ao,0r z f WITHIN ag ao,0ar z f WITHIN ag ao,0k z f WITHIN ag ao",
   "0ab z f WITHIN ag ao,0r f b NOTCHED gy,0ar f b NOTCHED gy,0k f b NOTCHED gy,0ab f b NOTCHED gy",
   "0am f lc WIDTH bl,4bo THIRDS,4bl bg,5THIRD,0r BOTTOM-SHADED z f,0k di SHADED z f",
   "0r kr SHADED z f,0k kr SHADED z f,0r LEFT-SHADED z f,0k RIGHT-SHADED z f,0r RIGHT-SHADED z f",
   "0k LEFT-SHADED z f,0r BACK-TILTED ju z f,0k BACK-TILTED ju z f,0r FRONT-TILTED ju z f",
   "0k FRONT-TILTED ju z f,0z f lc WIDTH bl,4bo THIRDS,=1F8B0,0f bf ar THEN fo gz",
   "2k THEN CURVING gg gz,0k f b aq aw,0ab x f TO fe,0hy ei r f,2ar f,2k f,2ab f,0fo gz f jk fe",
   "1gh f jk fe,0gg gh f jk fe,1gz f jk fe,=1F8C0,0r f jk ab f,0k f jk ab f,=1F900",
   "0ct fv FORMEE b au cy,4bo cy,3,0l bg ai b au cy,4s cy,4bo cy,4cg,3,0DOWNWARD FACING aw",
   "2NOTCHED aw,2aw b cg,2NOTCHED aw b cg,0PINCHED gq,0z ib,0BROWN ib,0PINCHING kk",
   "0ZIPPER-MOUTH cn,0MONEY-MOUTH cn,0cn b THERMOMETER,0NERD cn,0THINKING cn,0cn b HEAD-BANDAGE",
   "0ROBOT cn,0HUGGING cn,0h OF THE HORNS,0CALL ME kk,0he BACK OF kk,0gi FIST,0fu FIST,0HANDSHAKE",
   "0kk b bv p aa gq li,0I LOVE YOU kk h,0cn b COWBOY HAT,0CLOWN cn,0NAUSEATED cn",
   "0ROLLING ON THE FLOOR LAUGHING,0DROOLING cn,0LYING cn,0cn PALM,0SNEEZING cn",
   "0cn b bl EYEBROW he,0GRINNING cn b go EYES,3bl dg p bl d EYE,0cn b FINGER COVERING el LIPS",
   "0SERIOUS cn b SYMBOLS COVERING hx,0ih cn b ih EYES p kk COVERING hx,0cn b dv hx VOMITING",
   "0SHOCKED cn b EXPLODING HEAD,0PREGNANT WOMAN,0BREAST-FEEDING,0PALMS UP TOGETHER,0SELFIE",
   "0PRINCE,0MAN IN TUXEDO,0MOTHER CHRISTMAS,0SHRUG,0kh DOING CARTWHEEL,0JUGGLING,0FENCER",
   "0MODERN PENTATHLON,0WRESTLERS,0WATER POLO,0HANDBALL,0DIVING MASK,0WILTED FLOWER",
   "0DRUM b DRUMSTICKS,0CLINKING GLASSES,0TUMBLER GLASS,0SPOON,0GOAL NET,0RIFLE,0FIRST PLACE MEDAL",
   "0SECOND PLACE MEDAL,0THIRD PLACE MEDAL,0BOXING GLOVE,0MARTIAL ARTS UNIFORM,0CURLING STONE",
   "0LACROSSE STICK p BALL,0SOFTBALL,0FLYING DISC,0CROISSANT,0AVOCADO,0CUCUMBER,0BACON,0POTATO",
   "0CARROT,0BAGUETTE BREAD,0GREEN SALAD,0SHALLOW PAN OF FOOD,0STUFFED FLATBREAD,0EGG",
   "0GLASS OF MILK,0PEANUTS,0KIWIFRUIT,0PANCAKES,0DUMPLING,0FORTUNE COOKIE,0TAKEOUT BOX",
   "0CHOPSTICKS,0BOWL b SPOON,0CUP b STRAW,0COCONUT,0BROCCOLI,0PIE,0PRETZEL,0CUT OF MEAT,0SANDWICH",
   "0CANNED FOOD,0LEAFY GREEN,0MANGO,0MOON CAKE,0BAGEL,0ih cn b ih EYES p s kv,0YAWNING cn",
   "0ih cn b TEAR,0cn b PARTY kf p PARTY HAT,2UNEVEN EYES p WAVY hx,0OVERHEATED cn,0FREEZING cn",
   "0NINJA,0DISGUISED cn,0cn HOLDING BACK TEARS,1b PLEADING EYES,0SARI,0LAB COAT,0GOGGLES",
   "0HIKING BOOT,0FLAT SHOE,0CRAB,0LION cn,0SCORPION,0TURKEY,0UNICORN cn,0EAGLE,0DUCK,0BAT,0SHARK",
   "0OWL,0FOX cn,0BUTTERFLY,0DEER,0GORILLA,0LIZARD,0RHINOCEROS,0SHRIMP,0SQUID,0GIRAFFE cn",
   "0ZEBRA cn,0HEDGEHOG,0SAUROPOD,0T-REX,0CRICKET,0KANGAROO,0LLAMA,0PEACOCK,0HIPPOPOTAMUS,0PARROT",
   "0RACCOON,0LOBSTER,0MOSQUITO,0MICROBE,0BADGER,0SWAN,0MAMMOTH,0DODO,0SLOTH,0OTTER,0ORANGUTAN",
   "0SKUNK,0FLAMINGO,0OYSTER,0BEAVER,0BISON,0SEAL,0GUIDE DOG,0PROBING CANE",
   "0EMOJI COMPONENT RED HAIR,2jm HAIR,2BALD,2z HAIR,0BONE,0LEG,0FOOT,0TOOTH,0SUPERHERO",
   "0SUPERVILLAIN,0SAFETY VEST,0EAR b HEARING AID,0MOTORIZED WHEELCHAIR,0MANUAL WHEELCHAIR",
   "0MECHANICAL ARM,1LEG,0CHEESE WEDGE,0CUPCAKE,0SALT SHAKER,0BEVERAGE BOX,0GARLIC,0ONION,0FALAFEL",
   "0WAFFLE,0BUTTER,0MATE DRINK,0ICE CUBE,0BUBBLE TEA,0TROLL,0STANDING kh,0KNEELING kh,0DEAF kh",
   "0cn b MONOCLE,0ADULT,0CHILD,0OLDER ADULT,0BEARDED kh,0kh b HEADSCARF,1IN STEAMY ROOM,1CLIMBING",
   "1IN LOTUS POSITION,0MAGE,0FAIRY,0VAMPIRE,0MERPERSON,0ELF,0GENIE,0ZOMBIE,0BRAIN,0ORANGE ib",
   "0BILLED CAP,0SCARF,0GLOVES,0COAT,0SOCKS,0RED GIFT ENVELOPE,0FIRECRACKER,0JIGSAW PUZZLE PIECE",
   "0TEST TUBE,0PETRI DISH,0DNA m HELIX,0COMPASS,0ABACUS,0FIRE EXTINGUISHER,0TOOLBOX,0BRICK",
   "0MAGNET,0LUGGAGE,0LOTION BOTTLE,0SPOOL OF THREAD,0BALL OF YARN,0SAFETY PIN,0TEDDY BEAR,0BROOM",
   "0BASKET,0ROLL OF PAPER,0fe OF SOAP,0SPONGE,0RECEIPT,0NAZAR AMULET,0gm eq KING,2QUEEN,2ROOK,2lf",
   "2fs,2PAWN,0z eq fs cc FORTY-FIVE cu,0x eq fs cc FORTY-FIVE cu,0gm eq fs cc FORTY-FIVE cu",
   "0z eq KING cc fi cu,2QUEEN cc fi cu,2ROOK cc fi cu,2lf cc fi cu,2fs cc fi cu,2PAWN cc fi cu",
   "0x eq KING cc fi cu,2QUEEN cc fi cu,2ROOK cc fi cu,2lf cc fi cu,2fs cc fi cu,2PAWN cc fi cu",
   "0gm eq KING cc fi cu,2QUEEN cc fi cu,2ROOK cc fi cu,2lf cc fi cu,2fs cc fi cu,2PAWN cc fi cu",
   "0z eq fs cc bl ac THIRTY-FIVE cu,0x eq fs cc bl ac THIRTY-FIVE cu",
   "0gm eq fs cc bl ac THIRTY-FIVE cu,0z eq bs KING,3QUEEN,3ROOK,3lf,3fs,3PAWN,0x eq bs KING",
   "3QUEEN,3ROOK,3lf,3fs,3PAWN,0gm eq bs KING,3QUEEN,3ROOK,3lf,3fs,3PAWN",
   "0z eq fs cc bo ac TWENTY-FIVE cu,0x eq fs cc bo ac TWENTY-FIVE cu",
   "0gm eq fs cc bo ac TWENTY-FIVE cu,0z eq KING cc bo ac er cu,2QUEEN cc bo ac er cu",
   "2ROOK cc bo ac er cu,2lf cc bo ac er cu,2fs cc bo ac er cu,2PAWN cc bo ac er cu",
   "0x eq KING cc bo ac er cu,2QUEEN cc bo ac er cu,2ROOK cc bo ac er cu,2lf cc bo ac er cu",
   "2fs cc bo ac er cu,2PAWN cc bo ac er cu,0gm eq KING cc bo ac er cu,2QUEEN cc bo ac er cu",
   "2ROOK cc bo ac er cu,2lf cc bo ac er cu,2fs cc bo ac er cu,2PAWN cc bo ac er cu",
   "0z eq fs cc s ac FIFTEEN cu,0x eq fs cc s ac FIFTEEN cu,0gm eq fs cc s ac FIFTEEN cu",
   "0z eq EQUIHOPPER,0x eq EQUIHOPPER,0gm eq EQUIHOPPER,0z eq EQUIHOPPER cc fi cu",
   "0x eq EQUIHOPPER cc fi cu,0gm eq EQUIHOPPER cc fi cu,0z eq KNIGHT-QUEEN,2KNIGHT-ROOK",
   "2KNIGHT-BISHOP,0x eq KNIGHT-QUEEN,2KNIGHT-ROOK,2KNIGHT-BISHOP,=1FA60,0XIANGQI RED GENERAL",
   "2MANDARIN,2ELEPHANT,2HORSE,2CHARIOT,2CANNON,2SOLDIER,1x GENERAL,2MANDARIN,2ELEPHANT,2HORSE",
   "2CHARIOT,2CANNON,2SOLDIER,=1FA70,0BALLET SHOES,0ONE-PIECE SWIMSUIT,0BRIEFS,0SHORTS",
   "0THONG SANDAL,0bq BLUE ib,0GREY ib,0PINK ib,0DROP OF BLOOD,0ADHESIVE BANDAGE,0STETHOSCOPE",
   "0X-RAY,0CRUTCH,=1FA80,0YO-YO,0KITE,0PARACHUTE,0BOOMERANG,0MAGIC WAND,0PINATA,0NESTING DOLLS",
   "0MARACAS,0FLUTE,0HARP,=1FA8F,0SHOVEL,0RINGED PLANET,0CHAIR,0RAZOR,0AXE,0DIYA LAMP,0BANJO",
   "0MILITARY HELMET,0ACCORDION,0eu DRUM,0COIN,0CARPENTRY SAW,0SCREWDRIVER,0LADDER,0aw,0MIRROR",
   "0WINDOW,0PLUNGER,0SEWING NEEDLE,0KNOT,0BUCKET,0MOUSE TRAP,0TOOTHBRUSH,0HEADSTONE,0PLACARD",
   "0ROCK,0MIRROR BALL,0IDENTIFICATION CARD,0hw BATTERY,0HAMSA,0FOLDING kk FAN,0HAIR PICK,0KHANDA",
   "0FLY,0WORM,0BEETLE,0COCKROACH,0POTTED PLANT,0WOOD,0FEATHER,0LOTUS,0CORAL,0EMPTY NEST",
   "0NEST b EGGS,0HYACINTH,0JELLYFISH,0WING,0LEAFLESS TREE,0GOOSE,0ANATOMICAL ib,0LUNGS",
   "0PEOPLE HUGGING,0PREGNANT MAN,1kh,0kh b CROWN,0FINGERPRINT,=1FACE,0MOOSE,0DONKEY,0BLUEBERRIES",
   "0BELL PEPPER,0OLIVE,0FLATBREAD,0TAMALE,0FONDUE,0TEAPOT,0POURING LIQUID,0BEANS,0JAR",
   "0GINGER ROOT,0PEA POD,0ROOT VEGETABLE,=1FADF,0SPLATTER,0MELTING cn,0SALUTING cn",
   "0cn b dv EYES p kk da hx,2PEEKING EYE,2bu hx,0fh em cn,0BITING LIP,0BUBBLES,0SHAKING cn",
   "0cn b BAGS UNDER EYES,=1FAF0,0kk b bv FINGER p cz li,0k kk,0r kk,0PALM cq kk,1UP kk",
   "0bv bf AT THE VIEWER,0ib HANDS,0r PUSHING kk,0k PUSHING kk,=1FB00,0ce SEXTANT-1,1SEXTANT-2",
   "1SEXTANT-12,1SEXTANT-3,1SEXTANT-13,1SEXTANT-23,1SEXTANT-123,1SEXTANT-4,1SEXTANT-14,1SEXTANT-24",
   "1SEXTANT-124,1SEXTANT-34,1SEXTANT-134,1SEXTANT-234,1SEXTANT-1234,1SEXTANT-5,1SEXTANT-15",
   "1SEXTANT-25,1SEXTANT-125,1SEXTANT-35,1SEXTANT-235,1SEXTANT-1235,1SEXTANT-45,1SEXTANT-145",
   "1SEXTANT-245,1SEXTANT-1245,1SEXTANT-345,1SEXTANT-1345,1SEXTANT-2345,1SEXTANT-12345,1SEXTANT-6",
   "1SEXTANT-16,1SEXTANT-26,1SEXTANT-126,1SEXTANT-36,1SEXTANT-136,1SEXTANT-236,1SEXTANT-1236",
   "1SEXTANT-46,1SEXTANT-146,1SEXTANT-1246,1SEXTANT-346,1SEXTANT-1346,1SEXTANT-2346,1SEXTANT-12346",
   "1SEXTANT-56,1SEXTANT-156,1SEXTANT-256,1SEXTANT-1256,1SEXTANT-356,1SEXTANT-1356,1SEXTANT-2356",
   "1SEXTANT-12356,1SEXTANT-456,1SEXTANT-1456,1SEXTANT-2456,1SEXTANT-12456,1SEXTANT-3456",
   "1SEXTANT-13456,1SEXTANT-23456,0aq l ce bu aq aa l TO aq ca,9g,4ba aa l TO aq ca,9g,5l TO aq ca",
   "1g ce bu ba aa l TO ba ca,9g,4aq aa l TO ba ca,9g,5l TO ba ca,5aa l TO ba aa g,5ca TO aq aa g",
   "5l TO aq aa g,5ca TO ba aa g,5l TO ba aa g,5ca TO ba g,1l ce bu ba ca TO ba aa g,5l TO ba aa g",
   "5ca TO aq aa g,5l TO aq aa g,5ca TO aq g,5aa l TO aq aa g,0ba g ce bu aq aa l TO aq ca,9g",
   "4ba aa l TO aq ca,9g,5l TO aq ca,1l ce bu ba aa l TO ba ca,9g,4aq aa l TO ba ca,9g,5l TO ba ca",
   "5aa l TO ba aa g,5ca TO aq aa g,5l TO aq aa g,5ca TO ba aa g,5l TO ba aa g,5ca TO ba g",
   "1g ce bu ba ca TO ba aa g,5l TO ba aa g,5ca TO aq aa g,5l TO aq aa g,5ca TO aq g",
   "5aa l TO aq aa g,1p g p aq eo s gf ce,0l p aq p g eo s gf ce,0ba p l p aq eo s gf ce",
   "0l p ba p g eo s gf ce,1eo bl by ce,0ba eo bl by ce,0g eo bl by ce,0aq eo bl by ce",
   "0n bl hb BLOCK-2,3BLOCK-3,3BLOCK-4,3BLOCK-5,3BLOCK-6,3BLOCK-7,0t bl hb BLOCK-2,3BLOCK-3",
   "3BLOCK-4,3BLOCK-5,3BLOCK-6,3BLOCK-7,0l p aq bl hb ce,2ba bl hb ce,0g p ba bl hb ce",
   "2aq bl hb ce,0ba p aq bl hb ce,0t bl hb BLOCK-1358,0ba bl by ce,1s jz ce,1ay jz ce,1s gf ce",
   "1av jz ce,0g bl by ce,1s jz ce,1ay jz ce,1s gf ce,1av jz ce,0l bg bh SHADE,0g bg bh SHADE",
   "0ba bg bh SHADE,0aq bg bh SHADE,0INVERSE bh SHADE,0ba bg ce p aq bg INVERSE bh SHADE",
   "2INVERSE bh SHADE p aq bg ce,=1FB94,0l bg INVERSE bh SHADE p g bg ce,0CHECKER BOARD FILL",
   "0INVERSE CHECKER BOARD FILL,0am t FILL,0ba l TO aq g FILL,1g TO aq l FILL,1p aq eo bg ce",
   "0l p g eo bg ce,0ba l eo bh SHADE,1g eo bh SHADE,0aq g eo bh SHADE,1l eo bh SHADE",
   "0BOX DRAWINGS bq bu ba ca TO aa l,8g,4aa l TO aq ca,5g TO aq ca,4ba ca TO aa l TO aq ca",
   "8g TO aq ca,4aa l TO aq ca TO aa g,7ba ca TO aa g,4ba ca TO aa l p aa g TO aq ca",
   "8g p aa l TO aq ca,9TO aq ca TO aa l,8l TO aq ca TO aa g,4aa l TO ba ca TO aa g TO aq ca",
   "5g TO ba ca TO aa l TO aq ca,4dp,3t b n v,0ARROWHEAD-SHAPED POINTER,0INVERSE CHECK ah",
   "0l bg RUNNING MAN,0g bg RUNNING MAN,0INVERSE ab f b TIP r,0r f p ba p aq bl hb ce",
   "0k f p ba p aq bl hb ce,0ab f p g bl hb ce,0ar f p g bl hb ce,0l bg FOLDER,0g bg FOLDER",
   "0VOIDED jq fv,0g dv ei cg,0hy bu fv,2aa g TO aq ca,2dp,0z am SALTIRE b ROUNDED CORNERS",
   "0l THIRD z g bf bv,0aa THIRD z g bf bv,0g THIRD z g bf bv,0hy ei en ah,0STICK FIGURE",
   "2b ARMS he,2LEANING l,3g,2b DRESS,0z dm CHEVRON,1fv ah,0he d l al ae,0x d dm CHEVRON",
   "0l bo THIRDS ce,1bl THIRD ce,0BOX DRAWINGS bq bu aa g TO aq l,4ba g TO aa l,5l TO aa g",
   "4aa l TO aq g,4ba l TO aq ca,5ca TO aq g,5g TO aq ca,5ca TO aq l,5l TO aa ca TO ba g",
   "5g TO aa ca TO aq g,4aq l TO aa ca TO aq g,4ba l TO aa ca TO aq l,7aq ca TO ba g",
   "5g TO aa l TO aq g,4aq l TO ba ca TO aq g,4ba l TO aa g TO aq l,0kr jh aq bg z ai",
   "0g jh l bg z ai,0di jh ba bg z ai,0l jh g bg z ai,0ba ca bl by ce,0aq ca bl by ce",
   "0aa l bl by ce,1g bl by ce,0kr jh aq bg x ai,0g jh l bg x ai,0di jh ba bg x ai,0l jh g bg x ai",
   "0kr g jh aq l by x ai,0di l jh ba g by x ai,1g jh ba l by x ai,0kr l jh aq g by x ai",
   "0SEGMENTED bp dq,2bl,2bo,2s,2au,2ay,2et,2av,2ap,2ci,=E0001,0LANGUAGE TAG,=E0020,0TAG km,1dd ah",
   "1dn ah,1cx h,1DOLLAR h,1PERCENT h,1AMPERSAND,1ks,1l bj,1g bj,1cs,1cj h,1ed,1HYPHEN-MINUS",
   "1hm fk,1gs,1bp dq,2bl,2bo,2s,2au,2ay,2et,2av,2ap,2ci,1ia,1ji,1az h,1fx h,1ak h,1en ah",
   "1COMMERCIAL AT,1ez c a A,4B,4C,4D,4E,4F,4G,4H,4I,4J,4K,4L,4M,4N,4O,4P,4Q,4R,4S,4T,4U,4V,4W,4X",
   "4Y,4Z,1l al ae,1hj gs,1g al ae,1af fd,1hw em,1dl fd,1ez d a A,4B,4C,4D,4E,4F,4G,4H,4I,4J,4K,4L",
   "4M,4N,4O,4P,4Q,4R,4S,4T,4U,4V,4W,4X,4Y,4Z,1l jm ae,1n em,1g jm ae,1cd,0CANCEL TAG,=E0100",
   "0VARIATION SELECTOR-17,1SELECTOR-18,1SELECTOR-19,1SELECTOR-20,1SELECTOR-21,1SELECTOR-22",
   "1SELECTOR-23,1SELECTOR-24,1SELECTOR-25,1SELECTOR-26,1SELECTOR-27,1SELECTOR-28,1SELECTOR-29",
   "1SELECTOR-30,1SELECTOR-31,1SELECTOR-32,1SELECTOR-33,1SELECTOR-34,1SELECTOR-35,1SELECTOR-36",
   "1SELECTOR-37,1SELECTOR-38,1SELECTOR-39,1SELECTOR-40,1SELECTOR-41,1SELECTOR-42,1SELECTOR-43",
   "1SELECTOR-44,1SELECTOR-45,1SELECTOR-46,1SELECTOR-47,1SELECTOR-48,1SELECTOR-49,1SELECTOR-50",
   "1SELECTOR-51,1SELECTOR-52,1SELECTOR-53,1SELECTOR-54,1SELECTOR-55,1SELECTOR-56,1SELECTOR-57",
   "1SELECTOR-58,1SELECTOR-59,1SELECTOR-60,1SELECTOR-61,1SELECTOR-62,1SELECTOR-63,1SELECTOR-64",
   "1SELECTOR-65,1SELECTOR-66,1SELECTOR-67,1SELECTOR-68,1SELECTOR-69,1SELECTOR-70,1SELECTOR-71",
   "1SELECTOR-72,1SELECTOR-73,1SELECTOR-74,1SELECTOR-75,1SELECTOR-76,1SELECTOR-77,1SELECTOR-78",
   "1SELECTOR-79,1SELECTOR-80,1SELECTOR-81,1SELECTOR-82,1SELECTOR-83,1SELECTOR-84,1SELECTOR-85",
   "1SELECTOR-86,1SELECTOR-87,1SELECTOR-88,1SELECTOR-89,1SELECTOR-90,1SELECTOR-91,1SELECTOR-92",
   "1SELECTOR-93,1SELECTOR-94,1SELECTOR-95,1SELECTOR-96,1SELECTOR-97,1SELECTOR-98,1SELECTOR-99",
   "1SELECTOR-100,1SELECTOR-101,1SELECTOR-102,1SELECTOR-103,1SELECTOR-104,1SELECTOR-105",
   "1SELECTOR-106,1SELECTOR-107,1SELECTOR-108,1SELECTOR-109,1SELECTOR-110,1SELECTOR-111",
   "1SELECTOR-112,1SELECTOR-113,1SELECTOR-114,1SELECTOR-115,1SELECTOR-116,1SELECTOR-117",
   "1SELECTOR-118,1SELECTOR-119,1SELECTOR-120,1SELECTOR-121,1SELECTOR-122,1SELECTOR-123",
   "1SELECTOR-124,1SELECTOR-125,1SELECTOR-126,1SELECTOR-127,1SELECTOR-128,1SELECTOR-129",
   "1SELECTOR-130,1SELECTOR-131,1SELECTOR-132,1SELECTOR-133,1SELECTOR-134,1SELECTOR-135",
   "1SELECTOR-136,1SELECTOR-137,1SELECTOR-138,1SELECTOR-139,1SELECTOR-140,1SELECTOR-141",
   "1SELECTOR-142,1SELECTOR-143,1SELECTOR-144,1SELECTOR-145,1SELECTOR-146,1SELECTOR-147",
   "1SELECTOR-148,1SELECTOR-149,1SELECTOR-150,1SELECTOR-151,1SELECTOR-152,1SELECTOR-153",
   "1SELECTOR-154,1SELECTOR-155,1SELECTOR-156,1SELECTOR-157,1SELECTOR-158,1SELECTOR-159",
   "1SELECTOR-160,1SELECTOR-161,1SELECTOR-162,1SELECTOR-163,1SELECTOR-164,1SELECTOR-165",
   "1SELECTOR-166,1SELECTOR-167,1SELECTOR-168,1SELECTOR-169,1SELECTOR-170,1SELECTOR-171",
   "1SELECTOR-172,1SELECTOR-173,1SELECTOR-174,1SELECTOR-175,1SELECTOR-176,1SELECTOR-177",
   "1SELECTOR-178,1SELECTOR-179,1SELECTOR-180,1SELECTOR-181,1SELECTOR-182,1SELECTOR-183",
   "1SELECTOR-184,1SELECTOR-185,1SELECTOR-186,1SELECTOR-187,1SELECTOR-188,1SELECTOR-189",
   "1SELECTOR-190,1SELECTOR-191,1SELECTOR-192,1SELECTOR-193,1SELECTOR-194,1SELECTOR-195",
   "1SELECTOR-196,1SELECTOR-197,1SELECTOR-198,1SELECTOR-199,1SELECTOR-200,1SELECTOR-201",
   "1SELECTOR-202,1SELECTOR-203,1SELECTOR-204,1SELECTOR-205,1SELECTOR-206,1SELECTOR-207",
   "1SELECTOR-208,1SELECTOR-209,1SELECTOR-210,1SELECTOR-211,1SELECTOR-212,1SELECTOR-213",
   "1SELECTOR-214,1SELECTOR-215,1SELECTOR-216,1SELECTOR-217,1SELECTOR-218,1SELECTOR-219",
   "1SELECTOR-220,1SELECTOR-221,1SELECTOR-222,1SELECTOR-223,1SELECTOR-224,1SELECTOR-225",
   "1SELECTOR-226,1SELECTOR-227,1SELECTOR-228,1SELECTOR-229,1SELECTOR-230,1SELECTOR-231",
   "1SELECTOR-232,1SELECTOR-233,1SELECTOR-234,1SELECTOR-235,1SELECTOR-236,1SELECTOR-237",
   "1SELECTOR-238,1SELECTOR-239,1SELECTOR-240,1SELECTOR-241,1SELECTOR-242,1SELECTOR-243",
   "1SELECTOR-244,1SELECTOR-245,1SELECTOR-246,1SELECTOR-247,1SELECTOR-248,1SELECTOR-249",
   "1SELECTOR-250,1SELECTOR-251,1SELECTOR-252,1SELECTOR-253,1SELECTOR-254,1SELECTOR-255",
   "1SELECTOR-256"]

end TaintFlow.CharacterName
