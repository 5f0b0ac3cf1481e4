/-!
# Names of symbols

Names in the order of their characters. An entry starts with the number of words that its name has
in common with the name before, and goes on with the other words; `=` gives, in hexadecimal digits,
the character of the entry after it, and without it comes the next character. A word in small letters
stands for one of the common words.
-/

namespace TaintFlow.CharacterName

/-- Punctuation, currency, arrows, operators and technical signs. -/
def signNames : List String :=
  ["=2000,0EN QUAD,0EM QUAD,0EN km,0EM km,0THREE-PER-EM km,0FOUR-PER-EM km,0SIX-PER-EM km",
   "0FIGURE km,0be km,0THIN km,0HAIR km,0dq WIDTH km,2NON-JOINER,2JOINER,0LEFT-TO-RIGHT ah",
   "0RIGHT-TO-LEFT ah,0HYPHEN,0NON-BREAKING HYPHEN,0FIGURE in,0EN in,0EM in,0t fe,0m n em,1hw em",
   "0l ck dn ah,0g ck dn ah,0ck LOW-9 dn ah,1HIGH-REVERSED-9 dn ah,0l m dn ah,0g m dn ah",
   "0m LOW-9 dn ah,1HIGH-REVERSED-9 dn ah,0DAGGER,0m DAGGER,0BULLET,0eo BULLET,0bl cg LEADER",
   "0bo cg LEADER,0t ELLIPSIS,0HYPHENATION POINT,0em dj,0PARAGRAPH dj,0LEFT-TO-RIGHT EMBEDDING",
   "0RIGHT-TO-LEFT EMBEDDING,0POP DIRECTIONAL FORMATTING,0LEFT-TO-RIGHT OVERRIDE",
   "0RIGHT-TO-LEFT OVERRIDE,0NARROW NO-BREAK km,0PER MILLE h,1iu ad h,0PRIME,0m PRIME,0dt PRIME",
   "0as PRIME,1m PRIME,1dt PRIME,0CARET,0ck bm fa dn ah,1ax fa dn ah,0REFERENCE ah,0m dd ah",
   "0INTERROBANG,0OVERLINE,0UNDERTIE,0gt TIE,0CARET INSERTION POINT,0ASTERISM,0HYPHEN BULLET",
   "0hc SLASH,0l al ae b QUILL,0g al ae b QUILL,0m en ah,0en dd ah,0dd en ah,0TIRONIAN h ET",
   "0as PILCROW h,0x r BULLET,1k BULLET,0hw cs,0as ji,0CLOSE UP,0bo ASTERISKS ALIGNED jx",
   "0COMMERCIAL MINUS h,0SWUNG in,0bc UNDERTIE,0FLOWER be ah,0s cg be,0kd PRIME,0au cg be",
   "0ay cg be,0bo cg be,0au cg ah,0fh fv,0TRICOLON,0n au cy,0bh MATHEMATICAL km,0WORD JOINER",
   "0FUNCTION APPLICATION,0INVISIBLE at,1dj,1cj,=2066,0LEFT-TO-RIGHT ISOLATE",
   "0RIGHT-TO-LEFT ISOLATE,0FIRST STRONG ISOLATE,0POP DIRECTIONAL ISOLATE",
   "0INHIBIT SYMMETRIC SWAPPING,0ACTIVATE SYMMETRIC SWAPPING,0INHIBIT ix e SHAPING",
   "0ACTIVATE ix e SHAPING,0NATIONAL bp SHAPES,0NOMINAL bp SHAPES,0hf dq,1ez d a I,=2074,1au,1ay",
   "1et,1av,1ap,1ci,1cj h,1MINUS,1fx h,1l bj,1g bj,1ez d a N,0SUBSCRIPT dq,1bl,1bo,1s,1au,1ay,1et",
   "1av,1ap,1ci,1cj h,1MINUS,1fx h,1l bj,1g bj,=2090,0ez SUBSCRIPT d a A,4E,4O,4X,4SCHWA,4H,4K,4L",
   "4M,4N,4P,4S,4T,=20A0,0EURO-CURRENCY h,0ia h,0CRUZEIRO h,0FRENCH FRANC h,0LIRA h,0MILL h",
   "0NAIRA h,0PESETA h,0RUPEE h,0WON h,0NEW SHEQEL h,0DONG h,0EURO h,0KIP h,0TUGRIK h,0DRACHMA h",
   "0GERMAN PENNY h,0PESO h,0GUARANI h,0AUSTRAL h,0HRYVNIA h,0CEDI h,0LIVRE TOURNOIS h,0SPESMILO h",
   "0TENGE h,0INDIAN RUPEE h,0TURKISH LIRA h,0NORDIC ah h,0MANAT h,0RUBLE h,0LARI h,0BITCOIN h",
   "0SOM h,=20D0,0ch l cr i,1g cr i,1eu n em gr,1ev n em gr,1dy f i,1is f i,1l f i,1g f i,1do gr",
   "1is do gr,1dy do gr,1s cy i,1au cy i,1ENCLOSING ai,2al,2dp,2ai BACKSLASH,1l g f i",
   "1ENCLOSING SCREEN,2KEYCAP,2UPWARD bf ag,1hj gs gr,1m n v gr,1ANNUITY y,1dt UNDERDOT",
   "1WIDE BRIDGE i,1r f gr,1eu m gs gr,1k cr b du ab,1r cr b du ab,1l f o,1g f o,1cs i,=2100",
   "0ACCOUNT OF,0ADDRESSED TO THE SUBJECT,0gx c C,0DEGREE CELSIUS,0ca em y,0CARE OF,0CADA UNA",
   "0EULER CONSTANT,0SCRUPLE,0DEGREE FAHRENHEIT,0ic d G,1c H,0BLACK-LETTER c H,0gx c H",
   "0PLANCK CONSTANT,2da bo PI,0ic c I,0BLACK-LETTER c I,0ic c L,1d L,0L B fe y,0gx c N,0NUMERO h",
   "0SOUND RECORDING COPYRIGHT,0ic c P,0gx c P,2Q,0ic c R,0BLACK-LETTER c R,0gx c R",
   "0PRESCRIPTION TAKE,0RESPONSE,0SERVICE ah,0jj h,0TRADE ah h,0VERSICLE,0gx c Z,0OUNCE h,0OHM h",
   "0bc OHM h,0BLACK-LETTER c Z,0bs jq d a lk,0KELVIN h,0ANGSTROM h,0ic c B,0BLACK-LETTER c C",
   "0ESTIMATED y,0ic d E,1c E,2F,0bs c F,0ic c M,1d O,0de y,0BET y,0GIMEL y,0DALET y",
   "0INFORMATION SOURCE,0cc c Q,0FACSIMILE h,0gx d PI,2ky,1c ky,2PI,1N-ARY SUMMATION,0bs eg c G,3L",
   "0as eg c L,0bs eg c Y,0gx ITALIC c D,2d D,3E,3I,3J,0PROPERTY em,0bs AMPERSAND,0PER h",
   "0AKTIESELSKAB,0bs d F,0y FOR SAMARITAN SOURCE,0VULGAR hc bl SEVENTH,3NINTH,3TENTH,3THIRD",
   "2bo THIRDS,2bl FIFTH,2bo FIFTHS,2s FIFTHS,2au FIFTHS,2bl SIXTH,2ay SIXTHS,2bl hb,2s jz,2ay jz",
   "2av jz,0hc NUMERATOR bl,0ROMAN NUMERAL bl,2bo,2s,2au,2ay,2et,2av,2ap,2ci,2iu,2ELEVEN,2TWELVE",
   "2hv,2bl ac,2ay ac,2bl ad,0d ROMAN NUMERAL bl,3bo,3s,3au,3ay,3et,3av,3ap,3ci,3iu,3ELEVEN",
   "3TWELVE,3hv,3bl ac,3ay ac,3bl ad,0ROMAN NUMERAL bl ad C D,2ay ad,2iu ad,2as bl ac,0ez d a as C",
   "0ROMAN NUMERAL et LATE e,2hv EARLY e,3ad,2bl ac ad,0VULGAR hc dq THIRDS,0bs bp bo,2s,=2190",
   "0r f,0ar f,0k f,0ab f,0l g f,0UP cq f,0fo gz f,1gh f,0gg gh f,1gz f,0r f b v,0k f b v",
   "0r WAVE f,0k WAVE f,0r bo HEADED f,0ar bo HEADED f,0k bo HEADED f,0ab bo HEADED f,0r f b gy",
   "0k f b gy,0r f jk fe,0ar f jk fe,0k f jk fe,0ab f jk fe,0UP cq f b BASE,0r f b aw,0k f b aw",
   "0r f b LOOP,0k f b LOOP,0l g WAVE f,2f b v,0ab ZIGZAG f,0ar f b TIP r,4k,0ab f b TIP r,4k",
   "0k f b fm ab,0ab f b fm r,0dy kr SEMICIRCLE f,0is kr SEMICIRCLE f,0fo gz f TO eu fe",
   "0r f TO fe da k f TO fe,0dy dv ai f,0is dv ai f,0r cr b du ar,4ab,0ar cr b du k,4r",
   "0k cr b du ar,4ab,0ab cr b du k,4r,0k f da r f,0ar f r OF ab f,0r f da k f,1PAIRED le",
   "0ar PAIRED le,0k PAIRED le,0ab PAIRED le,0r cr da k cr,0k cr da r cr,0r m f b v,0l g m f b v",
   "0k m f b v,0r m f,0ar m f,0k m f,0ab m f,0l g m f,0UP cq m f,0fo gz m f,1gh m f,0gg gh m f",
   "1gz m f,0r dt f,0k dt f,0r SQUIGGLE f,0k SQUIGGLE f,0ar f b m v,0ab f b m v,0r DASHED f",
   "0ar DASHED f,0k DASHED f,0ab DASHED f,0r f TO fe,0k f TO fe,0r z f,0ar z f,0k z f,0ab z f",
   "0ar z f jk fe,3ON PEDESTAL,5b t fe,6n fe,2m f,4ON PEDESTAL,0k z f jk WALL,0fo gz f TO fm",
   "0gg gh f TO fm,0UP cq z f,0g f b d ai,0ab f r OF ar f,0s k le,0r f b n v,0k f b n v",
   "0l g f b n v,0r f b m n v,0k f b m n v,0l g f b m n v,0r OPEN-HEADED f,0k OPEN-HEADED f",
   "0l g OPEN-HEADED f,0FOR ALL,0COMPLEMENT,0PARTIAL DIFFERENTIAL,0THERE EXISTS,1DOES NOT EXIST",
   "0EMPTY SET,0INCREMENT,0NABLA,0ELEMENT OF,0NOT AN ELEMENT OF,0d ELEMENT OF,0CONTAINS AS MEMBER",
   "0DOES NOT CONTAIN AS MEMBER,0d CONTAINS AS MEMBER,0END OF PROOF,0N-ARY PRODUCT,1COPRODUCT",
   "1SUMMATION,0MINUS h,0MINUS-OR-PLUS h,0cg cj,0DIVISION SLASH,0SET MINUS,0cs cv,0do cv",
   "0BULLET cv,0al ROOT,0CUBE ROOT,0FOURTH ROOT,0PROPORTIONAL TO,0INFINITY,0g fa,0fa,0MEASURED fa",
   "0SPHERICAL fa,0DIVIDES,0DOES NOT DIVIDE,0PARALLEL TO,0NOT PARALLEL TO,0ln p,1OR,0ex,0UNION,0hd",
   "0m hd,0dt hd,0CONTOUR hd,0SURFACE hd,0VOLUME hd,0is hd,1CONTOUR hd,0dy CONTOUR hd,0THEREFORE",
   "0BECAUSE,0RATIO,0PROPORTION,0cg MINUS,0EXCESS,0GEOMETRIC PROPORTION,0HOMOTHETIC,0cd cv,0as cd",
   "0bc LAZY S,0SINE WAVE,0WREATH PRODUCT,0NOT cd,0MINUS cd,0ASYMPTOTICALLY bx TO",
   "0NOT ASYMPTOTICALLY bx TO,0APPROXIMATELY bx TO,1BUT NOT ACTUALLY bx TO",
   "0NEITHER APPROXIMATELY NOR ACTUALLY bx TO,0ld bx TO,0NOT ld bx TO,0ld bx OR bx TO,0dt cd",
   "0ALL bx TO,0gu TO,0GEOMETRICALLY gu TO,0DIFFERENCE iy,0APPROACHES THE LIMIT",
   "0GEOMETRICALLY bx TO,0APPROXIMATELY bx TO OR THE IMAGE OF,0IMAGE OF OR APPROXIMATELY bx TO",
   "0ia fx,0fx ia,0do IN bx TO,1bx TO,0CORRESPONDS TO,0ESTIMATES,0EQUIANGULAR TO,0go fx",
   "0DELTA bx TO,0bx TO BY DEFINITION,0MEASURED BY,0QUESTIONED bx TO,0NOT bx TO,0IDENTICAL TO",
   "0NOT IDENTICAL TO,0STRICTLY gu TO,0az OR bx TO,0ak OR bx TO,0az da bx TO,0ak da bx TO",
   "0az BUT NOT bx TO,0ak BUT NOT bx TO,0MUCH az,1ak,0iy,0NOT gu TO,1az,1ak,0NEITHER az NOR bx TO",
   "1ak NOR bx TO,0az OR gu TO,0ak OR gu TO,0NEITHER az NOR gu TO,1ak NOR gu TO,0az OR ak",
   "0ak OR az,0NEITHER az NOR ak,1ak NOR az,0jt,0jv,0jt OR bx TO,0jv OR bx TO,0jt OR gu TO",
   "0jv OR gu TO,0DOES NOT PRECEDE,2SUCCEED,0hr OF,0fw OF,0NOT A hr OF,2fw OF,0hr OF OR bx TO",
   "0fw OF OR bx TO,0NEITHER A hr OF NOR bx TO,2fw OF NOR bx TO,0hr OF b NOT bx TO",
   "0fw OF b NOT bx TO,0MULTISET,1gl,1UNION,0al IMAGE OF,1ORIGINAL OF,1IMAGE OF OR bx TO",
   "1ORIGINAL OF OR bx TO,1CAP,1CUP,0ct cj,1MINUS,1at,1DIVISION SLASH,1cg cv,1do cv,1cs cv,1fx,1in",
   "0ei cj,1MINUS,1at,1cg cv,0g kn,0l kn,0cq kn,0UP kn,0ASSERTION,0MODELS,0TRUE,0FORCES",
   "0dt n fe g TURNSTILE,0m n fe m g TURNSTILE,0DOES NOT PROVE,0NOT TRUE,0DOES NOT FORCE",
   "0NEGATED m n fe m g TURNSTILE,0jt UNDER RELATION,0jv UNDER RELATION,0NORMAL SUBGROUP OF",
   "0CONTAINS AS NORMAL SUBGROUP,0NORMAL SUBGROUP OF OR bx TO",
   "0CONTAINS AS NORMAL SUBGROUP OR bx TO,0ORIGINAL OF,0IMAGE OF,0MULTIMAP",
   "0HERMITIAN CONJUGATE MATRIX,0INTERCALATE,0XOR,0NAND,0NOR,0g fa b ARC,1ag,0N-ARY ln p,2OR,1ex",
   "1UNION,0dp cv,0cg cv,0go cv,0DIVISION at,0BOWTIE,0l NORMAL FACTOR SEMIDIRECT PRODUCT",
   "0g NORMAL FACTOR SEMIDIRECT PRODUCT,0l SEMIDIRECT PRODUCT,0g SEMIDIRECT PRODUCT,0as cd fx",
   "0jm ln OR,2p,0m hr,1fw,1ex,1UNION,0PITCHFORK,0bx p PARALLEL TO,0az b cg,0ak b cg,0VERY MUCH az",
   "2ak,0az bx TO OR ak,0ak bx TO OR az,0bx TO OR az,3ak,3jt,3jv,0DOES NOT PRECEDE OR bx",
   "2SUCCEED OR bx,0NOT al IMAGE OF OR bx TO,2ORIGINAL OF OR bx TO,0al IMAGE OF OR NOT bx TO",
   "1ORIGINAL OF OR NOT bx TO,0az BUT NOT gu TO,0ak BUT NOT gu TO,0jt BUT NOT gu TO",
   "0jv BUT NOT gu TO,0NOT NORMAL SUBGROUP OF,0DOES NOT CONTAIN AS NORMAL SUBGROUP",
   "0NOT NORMAL SUBGROUP OF OR bx TO,0DOES NOT CONTAIN AS NORMAL SUBGROUP OR bx,0n ELLIPSIS",
   "0MIDLINE t ELLIPSIS,0UP g bu ELLIPSIS,0cq g bu ELLIPSIS,0ELEMENT OF b eu t v",
   "3n fe AT END OF t v,0d ELEMENT OF b n fe AT END OF t v,0ELEMENT OF b cg i,3OVERBAR",
   "0d ELEMENT OF b OVERBAR,0ELEMENT OF b fp,3bo t STROKES,0CONTAINS b eu t v,2n fe AT END OF t v",
   "0d CONTAINS b n fe AT END OF t v,0CONTAINS b OVERBAR,0d CONTAINS b OVERBAR",
   "0Z NOTATION BAG MEMBERSHIP,0DIAMETER h,0ELECTRIC f,0HOUSE,0UP ao,0cq ao,0PROJECTIVE",
   "0PERSPECTIVE,0WAVY em,0l CEILING,0g CEILING,0l FLOOR,0g FLOOR,0di g CROP,1l CROP,0kr g CROP",
   "1l CROP,0as NOT h,0al LOZENGE,0ARC,0SEGMENT,0SECTOR,0jj RECORDER,0POSITION INDICATOR",
   "0VIEWDATA al,0PLACE OF INTEREST h,0bs NOT h,0WATCH,0HOURGLASS,0kr l fm,1g fm,0di l fm,1g fm",
   "0kr bg hd,0di bg hd,0FROWN,0SMILE,0UP ao iy bo t BARS,0OPTION KEY,0ERASE TO THE g",
   "0X IN A RECTANGLE BOX,0KEYBOARD,0bm fa ae,0ax fa ae,0ERASE TO THE l,0BENZENE do,0CYLINDRICITY",
   "0ALL AROUND-PROFILE,0SYMMETRY,0TOTAL RUNOUT,0DIMENSION ORIGIN,0CONICAL TAPER,0SLOPE",
   "0COUNTERBORE,0COUNTERSINK,0APL FUNCTIONAL y I-BEAM,3SQUISH QUAD,3QUAD bx,4DIVIDE,4dp,4JOT,4ai",
   "3ai STILE,4JOT,3SLASH fe,3BACKSLASH fe,3QUAD SLASH,4BACKSLASH,4az,4ak,3r VANE,3k VANE",
   "3QUAD r f,4k f,3ai BACKSLASH,3cq kn fp,3DELTA STILE,3QUAD cq CARET,4DELTA,3cq kn JOT,3ar VANE",
   "3QUAD ar f,3UP kn OVERBAR,3DEL STILE,3QUAD UP CARET,4DEL,3UP kn JOT,3ab VANE,3QUAD ab f",
   "3QUOTE fp,3DELTA fp,3dp fp,3JOT fp,3ai fp,3UP SHOE JOT,3QUOTE QUAD,3ai go,3QUAD ia,3UP kn an",
   "3DEL an,3go an,3JOT an,3ai an,3cq SHOE STILE,3l SHOE STILE,3cd an,3ak an,3ed fe,3DEL cd,3ZILDE",
   "3STILE cd,3ji fp,3QUAD NOT bx,4en,3cq CARET cd,3UP CARET cd,3lk,3RHO,3gw,3hs fp,3gj fp,3lk fp",
   "3gw fp,3hs,0NOT CHECK ah,0g fa b ab ZIGZAG f,0SHOULDERED dv BOX,0BELL y,0n em b aa cg",
   "0INSERTION y,0CONTINUOUS UNDERLINE y,0DISCONTINUOUS UNDERLINE y,0EMPHASIS y,0COMPOSITION y",
   "0z al b ca n em,0ENTER y,0ALTERNATIVE KEY y,0HELM y,0ct t fe b NOTCH,1ag cq",
   "0BROKEN ai b NORTHWEST f,0UNDO y,0MONOSTABLE y,0HYSTERESIS y,0OPEN-CIRCUIT-OUTPUT H-TYPE y",
   "1L-TYPE y,0PASSIVE-PULL-DOWN-OUTPUT y,0PASSIVE-PULL-UP-OUTPUT y,0DIRECT CURRENT y e bo",
   "0SOFTWARE-FUNCTION y,0APL FUNCTIONAL y QUAD,0DECIMAL dj KEY y,0PREVIOUS PAGE,0NEXT PAGE",
   "0PRINT SCREEN y,0CLEAR SCREEN y,0l bj ba aw,2EXTENSION,2aq aw,0g bj ba aw,2EXTENSION,2aq aw",
   "0l al ae ba fm,3EXTENSION,3aq fm,0g al ae ba fm,3EXTENSION,3aq fm,0l jm ae ba aw,3aa PIECE",
   "3aq aw,0jm ae EXTENSION,0g jm ae ba aw,3aa PIECE,3aq aw,0hd EXTENSION,0t em EXTENSION",
   "0ba l OR aq g jm ae fl,1g OR aq l jm ae fl,0SUMMATION kr,1di,0kr al ae,0di al ae,3da kr al ae",
   "0RADICAL y di,0l n BOX em,0g n BOX em,0t SCAN LINE-1,2LINE-3,2LINE-7,2LINE-9",
   "0DENTISTRY y bq n p kr g,5di g,4b ai,3cq p t b ai,3UP p t b ai,3n b ag,3cq p t b ag",
   "3UP p t b ag,3n p WAVE,3cq p t b WAVE,3UP p t b WAVE,3cq p t,3UP p t,3n p kr l,5di l,0al FOOT",
   "0RETURN y,0EJECT y,0n em EXTENSION,0METRICAL ep,1eu da ev,1ev da eu,1eu da bo SHORTS",
   "1bo SHORTS da eu,3JOINED,1TRISEME,1TETRASEME,1PENTASEME,0EARTH GROUND,0FUSE,0kr bj,0di bj",
   "0kr jm ae,0di jm ae,0kr hq ke ae,0di hq ke ae,0z TRAPEZIUM,0BENZENE do b ai,0STRAIGHTNESS",
   "0FLATNESS,0AC CURRENT,0ELECTRICAL ex,0DECIMAL EXPONENT y,0x ax m ag,1bm m ag,1dm m ag,1df m ag",
   "1ax m ag b n fe,1bm m ag b n fe,1ax ag b m n fe,0ALARM CLOCK,0STOPWATCH,0TIMER CLOCK",
   "0HOURGLASS b FLOWING SAND,0x bh bm ag,2ax ag,2dm ag,2df ag,0m n fe,0x al FOR fk,1ai FOR RECORD",
   "0POWER y,1ON-OFF y,1ON y,1SLEEP y,0OBSERVER EYE y,0y FOR NULL,2START OF HEADING,4TEXT",
   "2END OF TEXT,4TRANSMISSION,2ENQUIRY,2ACKNOWLEDGE,2BELL,2BACKSPACE,2t im,2em FEED,2n im,2e FEED",
   "2CARRIAGE RETURN,2SHIFT OUT,3IN,2DATA LINK ESCAPE,2DEVICE CONTROL bl,4bo,4s,4au",
   "2hy ACKNOWLEDGE,2SYNCHRONOUS IDLE,2END OF TRANSMISSION ce,2CANCEL,2END OF bh,2SUBSTITUTE",
   "2ESCAPE,2FILE dj,2GROUP dj,2RECORD dj,2UNIT dj,2km,2DELETE,0BLANK y,0dv BOX,0y FOR NEWLINE",
   "2DELETE e bo,2SUBSTITUTE e bo,2DELETE al CHECKER BOARD e,3RECTANGULAR CHECKER BOARD e",
   "3bh SHADE e,=2440,0OCR aw,1CHAIR,1FORK,1bc FORK,1BELT BUCKLE,1BOW TIE",
   "1BRANCH BANK IDENTIFICATION,1AMOUNT OF CHECK,1in,1CUSTOMER ACCOUNT cx,1m BACKSLASH,=2460",
   "0ct bp bl,2bo,2s,2au,2ay,2et,2av,2ap,2ci,1cx iu,2ELEVEN,2TWELVE,2THIRTEEN,2FOURTEEN,2FIFTEEN",
   "2SIXTEEN,2SEVENTEEN,2EIGHTEEN,2NINETEEN,2ey,0PARENTHESIZED bp bl,2bo,2s,2au,2ay,2et,2av,2ap",
   "2ci,1cx iu,2ELEVEN,2TWELVE,2THIRTEEN,2FOURTEEN,2FIFTEEN,2SIXTEEN,2SEVENTEEN,2EIGHTEEN",
   "2NINETEEN,2ey,0bp bl hm fk,1bo hm fk,1s hm fk,1au hm fk,1ay hm fk,1et hm fk,1av hm fk",
   "1ap hm fk,1ci hm fk,0cx iu hm fk,1ELEVEN hm fk,1TWELVE hm fk,1THIRTEEN hm fk,1FOURTEEN hm fk",
   "1FIFTEEN hm fk,1SIXTEEN hm fk,1SEVENTEEN hm fk,1EIGHTEEN hm fk,1NINETEEN hm fk,1ey hm fk",
   "0PARENTHESIZED ez d a A,4B,4C,4D,4E,4F,4G,4H,4I,4J,4K,4L,4M,4N,4O,4P,4Q,4R,4S,4T,4U,4V,4W,4X",
   "4Y,4Z,0ct ez c a A,4B,4C,4D,4E,4F,4G,4H,4I,4J,4K,4L,4M,4N,4O,4P,4Q,4R,4S,4T,4U,4V,4W,4X,4Y,4Z",
   "2d a A,4B,4C,4D,4E,4F,4G,4H,4I,4J,4K,4L,4M,4N,4O,4P,4Q,4R,4S,4T,4U,4V,4W,4X,4Y,4Z,1bp dq",
   "0hy ct cx ELEVEN,3TWELVE,3THIRTEEN,3FOURTEEN,3FIFTEEN,3SIXTEEN,3SEVENTEEN,3EIGHTEEN,3NINETEEN",
   "3ey,0m ct bp bl,3bo,3s,3au,3ay,3et,3av,3ap,3ci,2cx iu,0hy ct bp dq"]

/-- Shapes, dingbats, Braille and supplemental operators. -/
def shapeNames : List String :=
  ["=2500,0BOX DRAWINGS bq t,2am t,2bq n,2am n,2bq dt in t,2am dt in t,2bq dt in n,2am dt in n",
   "2bq kd in t,2am kd in t,2bq kd in n,2am kd in n,2bq cq p g,2cq bq p g am,3am p g bq,2am cq p g",
   "2bq cq p l,2cq bq p l am,3am p l bq,2am cq p l,2bq UP p g,2UP bq p g am,3am p g bq,2am UP p g",
   "2bq UP p l,2UP bq p l am,3am p l bq,2am UP p l,2bq n p g,2n bq p g am,2UP am p g cq bq",
   "2cq am p g UP bq,2n am p g bq,2cq bq p g UP am,2UP bq p g cq am,2am n p g,2bq n p l",
   "2n bq p l am,2UP am p l cq bq,2cq am p l UP bq,2n am p l bq,2cq bq p l UP am,2UP bq p l cq am",
   "2am n p l,2bq cq p t,2l am p g cq bq,2g am p l cq bq,2cq bq p t am,3am p t bq,2g bq p l cq am",
   "2l bq p g cq am,2am cq p t,2bq UP p t,2l am p g UP bq,2g am p l UP bq,2UP bq p t am,3am p t bq",
   "2g bq p l UP am,2l bq p g UP am,2am UP p t,2bq n p t,2l am p g n bq,2g am p l n bq",
   "2n bq p t am,2UP am p cq t bq,2cq am p UP t bq,2n am p t bq,2l UP am p g cq bq",
   "2g UP am p l cq bq,2l cq am p g UP bq,2g cq am p l UP bq,2cq bq p UP t am,2UP bq p cq t am",
   "2g bq p l n am,2l bq p g n am,2am n p t,2bq m in t,2am m in t,2bq m in n,2am m in n,2m t,3n",
   "2cq ck p g m,3m p g ck,2m cq p g,2cq ck p l m,3m p l ck,2m cq p l,2UP ck p g m,3m p g ck",
   "2m UP p g,2UP ck p l m,3m p l ck,2m UP p l,2n ck p g m,3m p g ck,2m n p g,2n ck p l m",
   "3m p l ck,2m n p l,2cq ck p t m,3m p t ck,2m cq p t,2UP ck p t m,3m p t ck,2m UP p t",
   "2n ck p t m,3m p t ck,2m n p t,2bq ARC cq p g,6l,4UP p l,6g,3bu ba g TO aq l,5l TO aq g,4fv,3l",
   "3UP,3g,3cq,2am l,3UP,3g,3cq,2bq l p am g,3UP p am cq,2am l p bq g,3UP p bq cq,0ba bg ce",
   "0aq bl hb ce,2by ce,1s jz ce,1bg ce,1ay jz ce,1s gf ce,1av jz ce,0hm ce,0l av jz ce,1s gf ce",
   "1ay jz ce,1bg ce,1s jz ce,1bl by ce,2hb ce,0g bg ce,0bq SHADE,0bh SHADE,0DARK SHADE",
   "0ba bl hb ce,0g bl hb ce,0bi aq l,2g,1ba l,3p aq l p aq g,5g,4ba g p aq l,8g,2g,3p aq l",
   "6p aq g,0x al,0z al,2b ROUNDED CORNERS,2ku x d al,0al b t FILL,2n FILL",
   "2ORTHOGONAL CROSSHATCH FILL,2ba l TO aq g FILL,3g TO aq l FILL,2bu CROSSHATCH FILL,0x d al",
   "0z d al,0x RECTANGLE,0z RECTANGLE,0x n RECTANGLE,0z n RECTANGLE,0x PARALLELOGRAM",
   "0z PARALLELOGRAM,0x dm ag,0z dm ag,0x dm d ag,0z dm d ag,0x ax ag,0z ax ag,0x ax d ag",
   "0z ax d ag,0x ax POINTER,0z ax POINTER,0x df ag,0z df ag,0x df d ag,0z df d ag,0x bm ag",
   "0z bm ag,0x bm d ag,0z bm d ag,0x bm POINTER,0z bm POINTER,0x dp,0z dp,2ku x d dp,0FISHEYE",
   "0LOZENGE,0z ai,0fh ai,0ai b n FILL,0BULLSEYE,0x ai,0ai b l bg x,2g bg x,2aq bg x,2ba bg x",
   "3g bi x,2ALL BUT ba l bi x,0l bg x ai,0g bg x ai,0INVERSE BULLET,1z ai,0ba bg INVERSE z ai",
   "0aq bg INVERSE z ai,0ba l bi CIRCULAR ARC,1g bi CIRCULAR ARC,0aq g bi CIRCULAR ARC",
   "1l bi CIRCULAR ARC,0ba bg ai,0aq bg ai,0x aq g ag,2l ag,1ba l ag,2g ag,0z BULLET,0al b l bg x",
   "2g bg x,2ba l bu bg x,2aq g bu bg x,0z al b n BISECTING em,1dm ag b cg,0dm ag b l bg x,3g bg x",
   "0dg ai,0z al b ba l bi,3aq l bi,4g bi,3ba g bi,1ai b ba l bi,3aq l bi,4g bi,3ba g bi,0ba l ag",
   "1g ag,0aq l ag,0z bh al,0x bh al,0z bh d al,0x bh d al,0aq g ag,0x SUN b RAYS,0CLOUD,0UMBRELLA",
   "0SNOWMAN,0COMET,0x go,0z go,0LIGHTNING,0THUNDERSTORM,0SUN,0ASCENDING NODE,0DESCENDING NODE",
   "0CONJUNCTION,0OPPOSITION,0x jj,0z jj,0BALLOT BOX,2b CHECK,3X,0SALTIRE,0UMBRELLA b RAIN DROPS",
   "0HOT BEVERAGE,0z SHOGI PIECE,0x SHOGI PIECE,0SHAMROCK,0as cc FLORAL ib BULLET,0x l bf bv",
   "1g bf bv,0z l bf bv,1UP bf bv,1g bf bv,1cq bf bv,0SKULL p CROSSBONES,0CAUTION h,0RADIOACTIVE h",
   "0BIOHAZARD h,0CADUCEUS,0ANKH,0ORTHODOX fv,0CHI RHO,0fv OF LORRAINE,2JERUSALEM,0go p CRESCENT",
   "0FARSI y,0ADI SHAKTI,0HAMMER p SICKLE,0PEACE y,0YIN YANG,0TRIGRAM FOR HEAVEN,2LAKE,2FIRE",
   "2THUNDER,2WIND,2WATER,2MOUNTAIN,2EARTH,0WHEEL OF DHARMA,0z FROWNING cn,1ih cn,0x ih cn",
   "0z SUN b RAYS,0FIRST by MOON,0LAST by MOON,0MERCURY,0FEMALE h,0EARTH,0MALE h,0JUPITER,0SATURN",
   "0URANUS,0NEPTUNE,0PLUTO,0ARIES,0TAURUS,0GEMINI,0CANCER,0LEO,0VIRGO,0LIBRA,0SCORPIUS",
   "0SAGITTARIUS,0CAPRICORN,0AQUARIUS,0PISCES,0z eq KING,2QUEEN,2ROOK,2lf,2fs,2PAWN,0x eq KING",
   "2QUEEN,2ROOK,2lf,2fs,2PAWN,1SPADE SUIT,0z ib SUIT,1dp SUIT,0x CLUB SUIT,0z SPADE SUIT",
   "0x ib SUIT,1dp SUIT,0z CLUB SUIT,0HOT SPRINGS,0by NOTE,0hb NOTE,0BEAMED hb NOTES,1fj NOTES",
   "0MUSIC FLAT h,1NATURAL h,1SHARP h,0gz SYRIAC fv,0gh SYRIAC fv,0UNIVERSAL RECYCLING y",
   "0RECYCLING y FOR TYPE-1 PLASTICS,3TYPE-2 PLASTICS,3TYPE-3 PLASTICS,3TYPE-4 PLASTICS",
   "3TYPE-5 PLASTICS,3TYPE-6 PLASTICS,3TYPE-7 PLASTICS,3GENERIC MATERIALS,0x UNIVERSAL RECYCLING y",
   "0RECYCLED PAPER y,0PARTIALLY-RECYCLED PAPER y,0PERMANENT PAPER h,0WHEELCHAIR y,0DIE FACE-1",
   "1FACE-2,1FACE-3,1FACE-4,1FACE-5,1FACE-6,0z ai b cg g,3bo cy,0x ai b z cg g,3bo z cy",
   "0MONOGRAM FOR YANG,2YIN,0DIGRAM FOR GREATER YANG,2LESSER YIN,3YANG,2GREATER YIN,0z FLAG",
   "0x FLAG,0HAMMER p PICK,0ANCHOR,0li SWORDS,0STAFF OF AESCULAPIUS,0SCALES,0ALEMBIC,0FLOWER,0GEAR",
   "0STAFF OF HERMES,0ATOM y,0FLEUR-DE-LIS,0OUTLINED z go,0s LINES CONVERGING g,3l,0WARNING h",
   "0fb VOLTAGE h,0DOUBLED FEMALE h,1MALE h,0INTERLOCKED FEMALE p MALE h,0MALE p FEMALE h,1b v h",
   "3p MALE p FEMALE h,0n MALE b v h,0t MALE b v h,0bh z ai,1x ai,1d z ai,0MARRIAGE y,0DIVORCE y",
   "0UNMARRIED PARTNERSHIP y,0COFFIN,0FUNERAL URN,0NEUTER,0CERES,0PALLAS,0JUNO,0VESTA,0CHIRON",
   "0x MOON LILITH,0SEXTILE,0SEMISEXTILE,0QUINCUNX,0SESQUIQUADRATE,0SOCCER BALL,0BASEBALL,0ei KEY",
   "0z DRAUGHTS MAN,2KING,0x DRAUGHTS MAN,2KING,0SNOWMAN WITHOUT SNOW,0SUN BEHIND CLOUD,0RAIN",
   "0x SNOWMAN,0THUNDER CLOUD p RAIN,0bs z SHOGI PIECE,1x SHOGI PIECE,0z dp IN al,0ee LANES",
   "0DISABLED CAR,0OPHIUCHUS,0PICK,0CAR SLIDING,0HELMET b z fv,0ct ee LANES,0CHAINS,0NO ENTRY",
   "0ek ONE-WAY l WAY TRAFFIC,0x TWO-WAY l WAY TRAFFIC,0z TWO-WAY l WAY TRAFFIC,0x l LANE MERGE",
   "0z l LANE MERGE,0DRIVE SLOW h,0am z df ag,0l el ENTRY,0ei SALTIRE,0FALLING bu IN z ai IN x al",
   "0x TRUCK,0RESTRICTED l ENTRY-1,2ENTRY-2,0ASTRONOMICAL y FOR URANUS,0am ai b v p bo cy i",
   "0PENTAGRAM,0RIGHT-HANDED INTERLACED PENTAGRAM,0LEFT-HANDED INTERLACED PENTAGRAM,0bc PENTAGRAM",
   "0x fv ON SHIELD,0SHINTO SHRINE,0CHURCH,0CASTLE,0HISTORIC SITE,0GEAR WITHOUT HUB,1b HANDLES",
   "0MAP y FOR LIGHTHOUSE,0MOUNTAIN,0UMBRELLA ON GROUND,0FOUNTAIN,0FLAG IN HOLE,0FERRY,0SAILBOAT",
   "0al au CORNERS,0SKIER,0ICE SKATE,0kh b BALL,0TENT,0JAPANESE BANK y,0HEADSTONE GRAVEYARD y",
   "0FUEL PUMP,0CUP ON x al,0z FLAG b t aa x STRIPE,0x SAFETY SCISSORS,0ba BLADE SCISSORS",
   "0x SCISSORS,0aq BLADE SCISSORS,0z SCISSORS,1am CHECK ah,0jj LOCATION h,0TAPE DRIVE,0AIRPLANE",
   "0ENVELOPE,0he FIST,1kk,0VICTORY kk,0WRITING kk,0aq g PENCIL,0PENCIL,0ba g PENCIL,0z NIB,0x NIB",
   "0CHECK ah,0am CHECK ah,0gl X,0am gl X,0BALLOT X,0am BALLOT X,0OUTLINED jq fv,0am jq fv",
   "0dv ca fv,0am dv ca fv,0ez fv,0ju z ez fv,0OUTLINED ez fv,0MALTESE fv,0go OF DAVID,0au jg cs",
   "1BALLOON-SPOKED cs,0am au BALLOON-SPOKED cs,0au CLUB-SPOKED cs,0x au eh go,0z au eh go",
   "0SPARKLES,0STRESS OUTLINED z go,0ct z go,0dv ca x go,0x ca z go,0OUTLINED x go",
   "0am OUTLINED x go,0PINWHEEL go,0ju z go,0am cs,0dv ca cs,0ap kj cs,1eh x go,2PINWHEEL go",
   "0et eh x go,0ap eh RECTILINEAR x go,0am ap eh RECTILINEAR x go,0TWELVE eh x go,0SIXTEEN eh cs",
   "0jg cs,0dv ca jg cs,0am jg cs,0et PETALLED x p z FLORETTE,0x FLORETTE,0z FLORETTE",
   "0ap PETALLED OUTLINED x FLORETTE,0ct dv ca ap eh go,0am jg PINWHEEL cs,0SNOWFLAKE",
   "0TIGHT TRIFOLIATE SNOWFLAKE,0am CHEVRON SNOWFLAKE,0SPARKLE,0am SPARKLE,0BALLOON-SPOKED cs",
   "0ap jg PROPELLER cs,0am ap jg PROPELLER cs,0fv ah,0ju z ai,0hy ei fv ah",
   "0aq g DROP-SHADOWED z al,0ba g DROP-SHADOWED z al,0aq g ju z al,0ba g ju z al,0x en ah cb",
   "0z en ah cb,1dd ah cb,0x dp MINUS z X,0am dd ah y,0bq n fe,0bh n fe,0am n fe",
   "1ck bs ed dn ah cb,2ed dn ah cb,1m bs ed dn ah cb,2ed dn ah cb,1hw ck ed dn ah cb",
   "2m ed dn ah cb,0CURVED STEM PARAGRAPH h cb,0am dd ah cb,1ib dd ah cb,1x ib,0cc am x ib BULLET",
   "0FLORAL ib,0cc FLORAL ib BULLET,0bh l bj cb,1g bj cb,1FLATTENED l bj cb,2g bj cb,1bm fa ae cb",
   "1ax fa ae cb,0am bm fa dn ah cb,1ax fa dn ah cb,1bm fa ae cb,1ax fa ae cb,0bq l hq ke ae cb",
   "1g hq ke ae cb,0bh l jm ae cb,1g jm ae cb,0DINGBAT hy ct bp bl,4bo,4s,4au,4ay,4et,4av,4ap,4ci",
   "3cx iu,1ct eg bp bl,4bo,4s,4au,4ay,4et,4av,4ap,4ci,3cx iu,1hy ct eg bp bl,5bo,5s,5au,5ay,5et",
   "5av,5ap,5ci,4cx iu,0am WIDE-HEADED k f,1cj h,1MINUS h,1DIVISION h,1gg gh f,1k f,1fo gh f",
   "0DRAFTING POINT k f,0am ROUND-TIPPED k f,0w k f,0am w k f,0DASHED w k f,0am DASHED w k f",
   "0x k f,0THREE-D TOP-LIGHTED k ao,1BOTTOM-LIGHTED k ao,0x k ao,0am x CURVED ab p k f,3ar p k f",
   "0SQUAT x k f,0am CONCAVE-POINTED x k f,0RIGHT-SHADED z k f,0LEFT-SHADED z k f",
   "0BACK-TILTED ju z k f,0FRONT-TILTED ju z k f,0am aq RIGHT-SHADOWED z k f",
   "1ba RIGHT-SHADOWED z k f,0NOTCHED aq RIGHT-SHADOWED z k f,0jm LOOP",
   "0NOTCHED ba RIGHT-SHADOWED z k f,0ct am z k f,0WHITE-FEATHERED k f,0BLACK-FEATHERED gg gh f",
   "1k f,1fo gh f,0am BLACK-FEATHERED gg gh f,2k f,2fo gh f,0TEARDROP-BARBED k f",
   "0am TEARDROP-SHANKED k f,0WEDGE-TAILED k f,0am WEDGE-TAILED k f,0OPEN-OUTLINED k f,0m jm LOOP",
   "0s DIMENSIONAL fa,0z ag ku d z ag,0PERPENDICULAR,0dv hr,1fw,0l S-SHAPED BAG DELIMITER",
   "0g S-SHAPED BAG DELIMITER,0OR b cg jr,0hj gs PRECEDING hr,0fw PRECEDING gs,0n fe b t v",
   "0MATHEMATICAL RISING bu,0eu DIVISION,0MATHEMATICAL FALLING bu,0ei ln p,2OR,0z dp b CENTRED cg",
   "0p b cg,0ELEMENT OF OPENING ar,0aq g fm b cg,0ba l fm b cg,0l OUTER JOIN,0g OUTER JOIN",
   "0hm OUTER JOIN,0dg UP kn,1cq kn,0l p g m TURNSTILE,3kn,1MULTIMAP,0eu g kn,1l kn,0UP kn b ai i",
   "0LOZENGE DIVIDED BY t RULE,0z CONCAVE-SIDED dp,3b r TICK,4k TICK,1al b r TICK,3k TICK",
   "0MATHEMATICAL l z al ae,1g z al ae,1l fa ae,1g fa ae,1l m fa ae,1g m fa ae,1l z hq ke ae",
   "1g z hq ke ae,1l FLATTENED bj,1g FLATTENED bj,0ar kd f,0ab kd f,0dy GAPPED ai f",
   "0is GAPPED ai f,0g f b ct cj,0eu r f,1k f,1l g f,1r m f,1k m f,1l g m f,1r f jk fe,1k f jk fe",
   "1r m f jk fe,1k m f jk fe,2SQUIGGLE f,0BRAILLE PATTERN BLANK,2DOTS-1,2DOTS-2,2DOTS-12,2DOTS-3",
   "2DOTS-13,2DOTS-23,2DOTS-123,2DOTS-4,2DOTS-14,2DOTS-24,2DOTS-124,2DOTS-34,2DOTS-134,2DOTS-234",
   "2DOTS-1234,2DOTS-5,2DOTS-15,2DOTS-25,2DOTS-125,2DOTS-35,2DOTS-135,2DOTS-235,2DOTS-1235",
   "2DOTS-45,2DOTS-145,2DOTS-245,2DOTS-1245,2DOTS-345,2DOTS-1345,2DOTS-2345,2DOTS-12345,2DOTS-6",
   "2DOTS-16,2DOTS-26,2DOTS-126,2DOTS-36,2DOTS-136,2DOTS-236,2DOTS-1236,2DOTS-46,2DOTS-146",
   "2DOTS-246,2DOTS-1246,2DOTS-346,2DOTS-1346,2DOTS-2346,2DOTS-12346,2DOTS-56,2DOTS-156,2DOTS-256",
   "2DOTS-1256,2DOTS-356,2DOTS-1356,2DOTS-2356,2DOTS-12356,2DOTS-456,2DOTS-1456,2DOTS-2456",
   "2DOTS-12456,2DOTS-3456,2DOTS-13456,2DOTS-23456,2DOTS-123456,2DOTS-7,2DOTS-17,2DOTS-27",
   "2DOTS-127,2DOTS-37,2DOTS-137,2DOTS-237,2DOTS-1237,2DOTS-47,2DOTS-147,2DOTS-247,2DOTS-1247",
   "2DOTS-347,2DOTS-1347,2DOTS-2347,2DOTS-12347,2DOTS-57,2DOTS-157,2DOTS-257,2DOTS-1257,2DOTS-357",
   "2DOTS-1357,2DOTS-2357,2DOTS-12357,2DOTS-457,2DOTS-1457,2DOTS-2457,2DOTS-12457,2DOTS-3457",
   "2DOTS-13457,2DOTS-23457,2DOTS-123457,2DOTS-67,2DOTS-167,2DOTS-267,2DOTS-1267,2DOTS-367",
   "2DOTS-1367,2DOTS-2367,2DOTS-12367,2DOTS-467,2DOTS-1467,2DOTS-2467,2DOTS-12467,2DOTS-3467",
   "2DOTS-13467,2DOTS-23467,2DOTS-123467,2DOTS-567,2DOTS-1567,2DOTS-2567,2DOTS-12567,2DOTS-3567",
   "2DOTS-13567,2DOTS-23567,2DOTS-123567,2DOTS-4567,2DOTS-14567,2DOTS-24567,2DOTS-124567",
   "2DOTS-34567,2DOTS-134567,2DOTS-234567,2DOTS-1234567,2DOTS-8,2DOTS-18,2DOTS-28,2DOTS-128",
   "2DOTS-38,2DOTS-138,2DOTS-238,2DOTS-1238,2DOTS-48,2DOTS-148,2DOTS-248,2DOTS-1248,2DOTS-348",
   "2DOTS-1348,2DOTS-2348,2DOTS-12348,2DOTS-58,2DOTS-158,2DOTS-258,2DOTS-1258,2DOTS-358,2DOTS-1358",
   "2DOTS-2358,2DOTS-12358,2DOTS-458,2DOTS-1458,2DOTS-2458,2DOTS-12458,2DOTS-3458,2DOTS-13458",
   "2DOTS-23458,2DOTS-123458,2DOTS-68,2DOTS-168,2DOTS-268,2DOTS-1268,2DOTS-368,2DOTS-1368",
   "2DOTS-2368,2DOTS-12368,2DOTS-468,2DOTS-1468,2DOTS-2468,2DOTS-12468,2DOTS-3468,2DOTS-13468",
   "2DOTS-23468,2DOTS-123468,2DOTS-568,2DOTS-1568,2DOTS-2568,2DOTS-12568,2DOTS-3568,2DOTS-13568",
   "2DOTS-23568,2DOTS-123568,2DOTS-4568,2DOTS-14568,2DOTS-24568,2DOTS-124568,2DOTS-34568",
   "2DOTS-134568,2DOTS-234568,2DOTS-1234568,2DOTS-78,2DOTS-178,2DOTS-278,2DOTS-1278,2DOTS-378",
   "2DOTS-1378,2DOTS-2378,2DOTS-12378,2DOTS-478,2DOTS-1478,2DOTS-2478,2DOTS-12478,2DOTS-3478",
   "2DOTS-13478,2DOTS-23478,2DOTS-123478,2DOTS-578,2DOTS-1578,2DOTS-2578,2DOTS-12578,2DOTS-3578",
   "2DOTS-13578,2DOTS-23578,2DOTS-123578,2DOTS-4578,2DOTS-14578,2DOTS-24578,2DOTS-124578",
   "2DOTS-34578,2DOTS-134578,2DOTS-234578,2DOTS-1234578,2DOTS-678,2DOTS-1678,2DOTS-2678",
   "2DOTS-12678,2DOTS-3678,2DOTS-13678,2DOTS-23678,2DOTS-123678,2DOTS-4678,2DOTS-14678,2DOTS-24678",
   "2DOTS-124678,2DOTS-34678,2DOTS-134678,2DOTS-234678,2DOTS-1234678,2DOTS-5678,2DOTS-15678",
   "2DOTS-25678,2DOTS-125678,2DOTS-35678,2DOTS-135678,2DOTS-235678,2DOTS-1235678,2DOTS-45678",
   "2DOTS-145678,2DOTS-245678,2DOTS-1245678,2DOTS-345678,2DOTS-1345678,2DOTS-2345678",
   "2DOTS-12345678,0k jc f b n v,4m n v,0r m f b n v,0k m f b n v,0l g m f b n v,0k jc f jk fe",
   "0r m f jk fe,0k m f jk fe,0ab f b t v,0ar f b t v,1dt f,0ab dt f,0r m in f,0k m in f",
   "0r dt in f,0k dt in f,1jc dt in f,1f b fh STEM,0ar f TO fe,0ab f TO fe,0k f b gy b n v,5m n v",
   "1jc f b gy,5b n v,6m n v,0r ARROW-TAIL,0k ARROW-TAIL,0r m ARROW-TAIL,0k m ARROW-TAIL",
   "0r f TO x dp,0k f TO x dp,0r f jk fe TO x dp,0k f jk fe TO x dp,0fo gz p gg gh f,1gh p gg gz f",
   "1gz f b aw,1gh f b aw,0gg gh f b aw,1gz f b aw,0fo gz f p fo gh f,1gh f p gg gh f",
   "0gg gh f p gg gz f,1gz f p fo gz f,0RISING bu ee FALLING bu,0FALLING bu ee RISING bu",
   "0gg gh f ee fo gh f,0fo gh f ee gg gh f,0FALLING bu ee fo gh f,0RISING bu ee gg gh f",
   "0fo gh f ee fo gz f,1gz f ee fo gh f,0WAVE f bf DIRECTLY g,0f bf k THEN CURVING ar,5ab",
   "2ab THEN CURVING r,5k,0RIGHT-SIDE ARC is f,0LEFT-SIDE ARC dy f,0kr ARC dy f,0di ARC dy f",
   "0kr ARC is f b MINUS,2dy f b cj,0aq g SEMICIRCULAR is f,1l SEMICIRCULAR dy f,0dy el ai f",
   "0is el ai f,0k f i ev r f,0r f i ev k f,0ev k f i r f,0k f b cj o,0r f b cj o,0k f kq X",
   "0l g f kq d ai,0ar jc f jk d ai,0l du UP g du cq cr,2cq g du UP cr,0UP du g cq du l cr",
   "2l cq du g cr,0l du UP g du UP cr,0UP du g cq du g cr,0l du cq g du cq cr,0UP du l cq du l cr",
   "0r cr b du UP TO fe,0k cr b du UP TO fe,0ar cr b du g TO fe,0ab cr b du g TO fe",
   "0r cr b du cq TO fe,0k cr b du cq TO fe,0ar cr b du l TO fe,0ab cr b du l TO fe",
   "0r cr b du UP jk fe,0k cr b du UP jk fe,0ar cr b du g jk fe,0ab cr b du g jk fe",
   "0r cr b du cq jk fe,0k cr b du cq jk fe,0ar cr b du l jk fe,0ab cr b du l jk fe",
   "0r cr b du UP i r cr b du cq,0ar cr b du l BESIDE ar cr b du g,0k cr b du UP i k cr b du cq",
   "0ab cr b du l BESIDE ab cr b du g,0r cr b du UP i k cr b du UP,4cq i k cr b du cq",
   "0k cr b du UP i r cr b du UP,4cq i r cr b du cq,0r cr b du UP i eu in,4cq o eu in",
   "0k cr b du UP i eu in,4cq o eu in,0ar cr b du l BESIDE ab cr b du g",
   "0ab cr b du l BESIDE ar cr b du g,0g m f b ROUNDED HEAD,0fx h i k f,0cd cv i k f,0r f i cd cv",
   "0k f i cd cv,3ld bx TO,0az i r f,0r f kq az,0ak i k f,0hr i k f,0r f kq hr,0fw i r f",
   "0l FISH gy,0g FISH gy,0UP FISH gy,0cq FISH gy,0dt n fe DELIMITER,0Z NOTATION SPOT,2TYPE ia",
   "0l z jm ae,0g z jm ae,0l z bj,0g z bj,0Z NOTATION l IMAGE ae,2g IMAGE ae,2l BINDING ae",
   "2g BINDING ae,0l al ae b fp,0g al ae b fp,0l al ae b TICK IN kr fm,0g al ae b TICK IN di fm",
   "0l al ae b TICK IN di fm,0g al ae b TICK IN kr fm,0l fa ae b cg,0g fa ae b cg,0l ARC az ae",
   "0g ARC ak ae,0m l ARC ak ae,1g ARC az ae,0l x hq ke ae,0g x hq ke ae,0fh FENCE,0n ZIGZAG em",
   "0MEASURED fa OPENING l,0g fa hl b al,0MEASURED g fa b cg,0fa b S jr,0co fa",
   "0SPHERICAL fa OPENING l,3UP,0bs fa,0as fa,0fa b fp,0as fa b fp,0kc fa OPENING UP,3cq",
   "0MEASURED fa b dv ARM ENDING IN f bf UP p g,9UP p l,9cq p g,9cq p l,9g p UP,9l p UP,9g p cq",
   "9l p cq,0as EMPTY SET,0EMPTY SET b OVERBAR,3d ai i,3g f i,3l f i,0ai b t fe,0ct n fe,1PARALLEL",
   "1hj gs,1PERPENDICULAR,0ai DIVIDED BY t fe p kr bg DIVIDED BY n fe,1b SUPERIMPOSED X",
   "0ct ANTICLOCKWISE-ROTATED DIVISION h,0UP f kq ai,0ct z BULLET,1BULLET,1az,1ak",
   "0ai b d ai TO THE g,2bo t STROKES TO THE g,0ei RISING bu SLASH,1FALLING bu SLASH,1cs,1d ai,1al",
   "0bo JOINED SQUARES,0ag b cg i,2fp,0S IN ag,0ag b SERIFS AT di,0g ag i l ag,0l ag BESIDE n fe",
   "0n fe BESIDE g ag,0BOWTIE b l bg x,2g bg x,0x BOWTIE,0at b l bg x,2g bg x,0z HOURGLASS",
   "0x HOURGLASS,0l WIGGLY FENCE,0g WIGGLY FENCE,0l m WIGGLY FENCE,0g m WIGGLY FENCE",
   "0INCOMPLETE INFINITY,0TIE da INFINITY,0INFINITY NEGATED b n fe,0DOUBLE-ENDED MULTIMAP",
   "0al b CONTOURED OUTLINE,0INCREASES AS,0SHUFFLE PRODUCT,0fx h p hk PARALLEL,5b cd i",
   "0IDENTICAL TO p hk PARALLEL,0GLEICH STARK,0THERMODYNAMIC,0df ag b l bg x,3g bg x,0x dp b cq f",
   "1LOZENGE,0z ai b cq f,0x ai b cq f,0ERROR-BARRED z al,1x al,1z dp,1x dp,1z ai,1x ai",
   "0RULE-DELAYED,0hj gs cv,0gs b OVERBAR,0hj gs b t v,0BIG gs,1hj gs,0m cj,0dt cj",
   "0bm CURVED fa ae,0ax CURVED fa ae,0TINY,0MINY,0N-ARY ct cg cv,2cj cv,2at cv,1UNION cv b cg,4cj",
   "1al ex cv,2UNION cv,0bo ln p cv,2OR cv,0N-ARY at cv,0MODULO bo SUM,0SUMMATION b hd,0kd hd cv",
   "0FINITE PART hd,0hd b m v,1AVERAGE b SLASH,0CIRCULATION FUNCTION,0dy INTEGRATION",
   "0em INTEGRATION b RECTANGULAR PATH AROUND POLE,3SEMICIRCULAR PATH AROUND POLE",
   "2NOT INCLUDING THE POLE,0hd AROUND A POINT cv,0QUATERNION hd cv,0hd b r f b aw,2at h,2ex",
   "2UNION,2OVERBAR,2fp,0JOIN,0dg l ag cv,0Z NOTATION SCHEMA COMPOSITION,3PIPING,3PROJECTION",
   "0cj h b d ai i,3af fd i,3cd i,3cg o,3cd o,3SUBSCRIPT bo,3x ag,0MINUS h b ed i,3cg o",
   "3FALLING cy,3RISING cy,0cj h IN l bg ai,3g bg ai,0VECTOR OR fv PRODUCT,0gl h b cg i,3fp",
   "0SEMIDIRECT PRODUCT b di el,0SMASH PRODUCT,0gl h IN l bg ai,3g bg ai,0ct gl h b af fd",
   "0gl h IN m ai,0ct DIVISION h,0cj h IN ag,0MINUS h IN ag,0gl h IN ag,0INTERIOR PRODUCT",
   "0RIGHTHAND INTERIOR PRODUCT,0Z NOTATION RELATIONAL COMPOSITION,0AMALGAMATION OR COPRODUCT",
   "0ex b cg,0UNION b MINUS h,2OVERBAR,0ex b OVERBAR,2ln p,0UNION b ln OR,1i ex,0ex i UNION",
   "0UNION i fe i ex,0ex i fe i UNION,0UNION BESIDE p JOINED b UNION,0ex BESIDE p JOINED b ex",
   "0el UNION b SERIFS,1ex b SERIFS,0m al ex,2UNION,0el UNION b SERIFS p SMASH PRODUCT",
   "0ln p b cg i,1OR b cg i,0m ln p,2OR,0bo INTERSECTING ln p,3OR,0SLOPING dg OR,2p",
   "0ln OR OVERLAPPING ln p,1p b aa STEM,1OR b aa STEM,1p b t in,1OR b t in,1p b m OVERBAR,3fp",
   "3m fp,0d VEE b fp,0ln OR b m OVERBAR,4fp,0Z NOTATION DOMAIN ANTIRESTRICTION",
   "2RANGE ANTIRESTRICTION,0fx h b cg o,0IDENTICAL b cg i,0dt t fe b m n v,4dt n v,0cd cv b cg i",
   "3RISING cy,0SIMILAR MINUS SIMILAR,0CONGRUENT b cg i,0fx b cs,0ld bx TO b af fd",
   "0APPROXIMATELY bx OR bx TO,0fx h i cj h,0cj h i fx h,0fx h i cd cv,0m ia bx",
   "0bo CONSECUTIVE fx SIGNS,0s CONSECUTIVE fx SIGNS,0fx h b bo cy i p bo cy o,0gu b au cy i",
   "0az b ai jr,0ak b ai jr,0az b en ah i,0ak b en ah i,0az OR hk bx TO,0ak OR hk bx TO",
   "0az OR hk bx TO b cg jr,0ak OR hk bx TO b cg jr,0az OR hk bx TO b cg i,0ak OR hk bx TO b cg i",
   "0az OR hk bx TO b cg i g,0ak OR hk bx TO b cg i l,0az OR APPROXIMATE,0ak OR APPROXIMATE",
   "0az p SINGLE-LINE NOT bx TO,0ak p SINGLE-LINE NOT bx TO,0az p NOT APPROXIMATE",
   "0ak p NOT APPROXIMATE,0az i DOUBLE-LINE bx i ak,0ak i DOUBLE-LINE bx i az,0az i SIMILAR OR bx",
   "0ak i SIMILAR OR bx,0az i SIMILAR i ak,0ak i SIMILAR i az,0az i ak i DOUBLE-LINE bx",
   "0ak i az i DOUBLE-LINE bx,0az i hk bx i ak i hk bx,0ak i hk bx i az i hk bx,0hk bx TO OR az",
   "4ak,4az b cg jr,4ak b cg jr,0DOUBLE-LINE bx TO OR az,4ak,1hk bx TO OR az,5ak,0SIMILAR OR az",
   "2ak,1i az i fx h,2ak i fx h,0m NESTED az,2ak,2az b fp,0ak OVERLAPPING az,1BESIDE az",
   "0az el BY CURVE,0ak el BY CURVE,0az el BY CURVE i hk bx,0ak el BY CURVE i hk bx,0SMALLER THAN",
   "0LARGER THAN,0SMALLER THAN OR bx TO,0LARGER THAN OR bx TO,0fx h b BUMPY i",
   "0jt i SINGLE-LINE fx h,0jv i SINGLE-LINE fx h,0jt i SINGLE-LINE NOT bx TO",
   "0jv i SINGLE-LINE NOT bx TO,0jt i fx h,0jv i fx h,0jt i NOT bx TO,0jv i NOT bx TO",
   "0jt i ld bx TO,0jv i ld bx TO,0jt i NOT ld bx TO,0jv i NOT ld bx TO,0m jt,1jv,0hr b cg",
   "0fw b cg,0hr b cj h o,0fw b cj h o,0hr b gl h o,0fw b gl h o,0hr OF OR bx TO b cg i",
   "0fw OF OR bx TO b cg i,0hr OF i fx h,0fw OF i fx h,0hr OF i cd cv,0fw OF i cd cv",
   "0hr OF i ld bx TO,0fw OF i ld bx TO,0hr OF i NOT bx TO,0fw OF i NOT bx TO,0al l dv BOX cv",
   "1g dv BOX cv,0el hr,1fw,1hr OR bx TO,1fw OR bx TO,0hr i fw,0fw i hr,0hr i hr,0fw i fw",
   "1BESIDE hr,2p JOINED BY in b hr,0ELEMENT OF OPENING ab,0PITCHFORK b TEE kr,0TRANSVERSAL ex",
   "0FORKING,0NONFORKING,0ev l kn,1cq kn,1UP kn,0PERPENDICULAR b S,0n fe dt g TURNSTILE",
   "0m n fe l TURNSTILE,0n fe m l TURNSTILE,0m n fe m l TURNSTILE,0eu in jk l MEMBER OF m n",
   "0ev cq kn b OVERBAR,1UP kn b fp,3i ev cq kn,0m cq kn,1UP kn,1v NOT h,0as m v NOT h",
   "0DOES NOT DIVIDE b as NEGATION SLASH,0n em b ai i,4o,0cq kn b ai o,0PARALLEL b t v,2cd cv",
   "0dt n fe BINARY RELATION,3b t v,1ia cv,1NESTED az,2ak,0DOUBLE-LINE hk az OR bx TO,2ak OR bx TO",
   "0dt gs BINARY RELATION,0dg dt n fe cv,0m gs cv,0z n fe,0N-ARY z n fe,0fo gh z f,1gz z f",
   "0gg gh z f,1gz z f,0l g z f,0r x f,0ar x f,0ab x f,0fo gh x f,1gz x f,0gg gh x f,1gz x f",
   "0l g x f,0UP cq x f,0k f b TIP ab,4ar,0r f b TIP ab,4ar,0al b kr bg x,2di bg x,2ba g bu bg x",
   "2aq l bu bg x,0dp b l bg x,2g bg x,2kr bg x,2di bg x,0fh al,0x dg al,0z dg al,0x VERY d al",
   "0z VERY d al,0x PENTAGON,0z PENTAGON,1HEXAGON,0x HEXAGON,0t x HEXAGON,0x dg ai,1bh dp,0z bh dp",
   "0x bh LOZENGE,0z bh LOZENGE,0x d dp,2LOZENGE,0z d LOZENGE,0x t ELLIPSE,0z t ELLIPSE",
   "0x n ELLIPSE,0z n ELLIPSE,0l f b d ai,0s r le,0l f b ct cj,0eu r SQUIGGLE f,0r jc f b n v",
   "4m n v,3jk fe,2dt in f,1f b fh STEM,3gy b n v,5m n v,1jc f b gy,5b n v,6m n v,1f kq X",
   "0WAVE f bf DIRECTLY l,0fx h i r f,0hj cd cv i r f,0r f i hj ld bx TO,0k f kq ak,3fw,0r kd f",
   "0k kd f,0hj cd cv i k f,0k f i hj ld bx TO,0cd cv i r f,0r f i ld bx TO,3hj cd cv",
   "0k f i hj cd cv,0ab w ZIGZAG f,0ev hk fo f,1BACKSLANTED gg f,0z bh go,0x d go,0z d go",
   "0x ax PENTAGON,0z ax PENTAGON,0am dg ai,1OVAL b OVAL jr,1ai b ai jr,2,1ct SALTIRE",
   "0hk fo f b HOOKED HEAD,0BACKSLANTED gg f b HOOKED gy,0hk fo f b t gy,0BACKSLANTED gg f b t gy",
   "0BENT f bf ab THEN fo gh,0ev BENT f bf ab THEN fo gh,0r w f,0ar w f,0k w f,0ab w f,0l g w f",
   "0UP cq w f,0fo gz w f,1gh w f,0gg gh w f,1gz w f,0r w DASHED f,0ar w DASHED f,0k w DASHED f",
   "0ab w DASHED f,0is w dv ai f,0dy w dv ai f,0r w f TO fe,0ar w f TO fe,0k w f TO fe",
   "0ab w f TO fe,=2B76,0fo gz w f TO fe,1gh w f TO fe,0gg gh w f TO fe,1gz w f TO fe",
   "0r w f b m t v,0ar w f b m t v,0k w f b m t v,0ab w f b m t v,0t TAB KEY,0n TAB KEY",
   "0r w f da k w f,0ar w f r OF ab w f,0k w f da r w f,0ab w f r OF ar w f,0r w PAIRED le",
   "0ar w PAIRED le,0k w PAIRED le,0ab w PAIRED le,0r x ct z f,0ar x ct z f,0k x ct z f",
   "0ab x ct z f,0dy w g U-SHAPED f,2di U-SHAPED f,2l U-SHAPED f,2kr U-SHAPED f,0RETURN l,1g",
   "0NEWLINE l,1g,0au fm le CIRCLING dy,0k x f,=2B97,0y FOR TYPE A ELECTRONICS",
   "0THREE-D TOP-LIGHTED r dk ao,1RIGHT-LIGHTED ar dk ao,1TOP-LIGHTED k dk ao",
   "1LEFT-LIGHTED ab dk ao,0x r dk ao,1ar dk ao,1k dk ao,1ab dk ao,0ab w f b eu TIP r,6k",
   "0ar w f b eu TIP r,6k,0r w f b eu TIP ar,0k w f b eu TIP ar,0r w f b eu TIP ab",
   "0k w f b eu TIP ab,0x CURVED ab p r f,4k f,2ar p r f,4k f,2r p ar f,2k p ar f,2r p ab f",
   "2k p ab f,0RIBBON f cq l,3g,2UP l,3g,2l UP,2g UP,2l cq,2g cq,0ar z f jk fe b t fe",
   "0UP ao IN A RECTANGLE BOX,0OVERLAPPING z SQUARES,2p x SQUARES,1x SQUARES,0BALLOT BOX b bq X",
   "0ct X,1BOLD X,0x al CENTRED,1dp CENTRED,0bs x PENTAGON,0t x OCTAGON,0x OCTAGON",
   "1bh dm ag CENTRED,2df ag CENTRED,2bm ag CENTRED,2ax ag CENTRED,0NEPTUNE e bo,0kr bg x ai",
   "0di bg x ai,0bq au eh x CUSP,0cc bq au eh x CUSP,0z au eh CUSP,0cc z au eh CUSP",
   "0al POSITION INDICATOR,0UNCERTAINTY h,0GROUP ah,0PLUTO e bo,2s,2au,2ay,0TRANSPLUTO,0PROSERPINA",
   "0ASTRAEA,0HYGIEA,0PHOLUS,0NESSUS,0z MOON SELENA,0x dp ON fv,0TRUE bq MOON ARTA,0CUPIDO,0HADES",
   "0ZEUS,0KRONOS,0APOLLON,0ADMETOS,0VULCANUS,0POSEIDON,0l bg x go,0g bg x go,0go b l bg x,2g bg x",
   "0r jc f b ag ARROWHEADS,0ar jc f b ag ARROWHEADS,0k jc f b ag ARROWHEADS",
   "0ab jc f b ag ARROWHEADS,0ERIS e bl,2bo,0SEDNA,0RUSSIAN ASTROLOGICAL y VIGINTILE,3NOVILE",
   "3QUINTILE,3BINOVILE,3SENTAGON,3TREDECILE,0fx h b INFINITY o,0UNITED y,0SEPARATED y,0DOUBLED y",
   "0PASSED y,0as g fa,0HELLSCHREIBER PAUSE y"]

/-- Radicals, kana, and letters and signs in circles and squares. -/
def kanaNames : List String :=
  ["=2C00,0GLAGOLITIC c a AZU,3BUKY,3VEDE,3GLAGOLI,3DOBRO,3YESTU,3ZHIVETE,3DZELO,3ZEMLJA,3IZHE",
   "3u IZHE,3I,3DJERVI,3KAKO,3LJUDIJE,3MYSLITE,3NASHI,3ONU,3POKOJI,3RITSI,3SLOVO,3TVRIDO,3UKU",
   "3FRITU,3HERU,3OTU,3PE,3SHTA,3TSI,3CHRIVI,3je,3YERU,3YERI,3YATI,3SPIDERY HA,3YU,3d YUS,5b gy",
   "3YO,3IOTATED d YUS,3BIG YUS,3IOTATED BIG YUS,3FITA,3IZHITSA,3SHTAPIC,3TROKUTASTI A",
   "3LATINATE MYSLITE,3CAUDATE CHRIVI,1d a AZU,3BUKY,3VEDE,3GLAGOLI,3DOBRO,3YESTU,3ZHIVETE,3DZELO",
   "3ZEMLJA,3IZHE,3u IZHE,3I,3DJERVI,3KAKO,3LJUDIJE,3MYSLITE,3NASHI,3ONU,3POKOJI,3RITSI,3SLOVO",
   "3TVRIDO,3UKU,3FRITU,3HERU,3OTU,3PE,3SHTA,3TSI,3CHRIVI,3je,3YERU,3YERI,3YATI,3SPIDERY HA,3YU",
   "3d YUS,5b gy,3YO,3IOTATED d YUS,3BIG YUS,3IOTATED BIG YUS,3FITA,3IZHITSA,3SHTAPIC",
   "3TROKUTASTI A,3LATINATE MYSLITE,3CAUDATE CHRIVI,0ez c a L b m fe,1d a L b m fe,1c a L b aa cd",
   "3P b v,3R b gy,1d a A b v,3T b bu v,1c a H b cm,1d a H b cm,1c a K b cm,1d a K b cm",
   "1c a Z b cm,1d a Z b cm,1c a hs,3M b aw,3bs A,4hs,1d a V b g aw,1c a W b aw,1d a W b aw",
   "3V b CURL,1c a bg H,1d a bg H,3TAILLESS PHI,3E b NOTCH,3bs R b gy,3O b hw do jr,1a d c bs E",
   "1SUBSCRIPT d a J,0ds a c V,0ez c a S b SWASH gy,3Z b SWASH gy,0hu c a ALFA,1d a ALFA,1c a VIDA",
   "1d a VIDA,1c a ky,1d a ky,1c a DALDA,1d a DALDA,1c a EIE,1d a EIE,1c a SOU,1d a SOU,1c a ZATA",
   "1d a ZATA,1c a HATE,1d a HATE,1c a THETHE,1d a THETHE,1c a IAUDA,1d a IAUDA,1c a KAPA",
   "1d a KAPA,1c a LAULA,1d a LAULA,1c a MI,1d a MI,1c a NI,1d a NI,1c a KSI,1d a KSI,1c a O",
   "1d a O,1c a PI,1d a PI,1c a RO,1d a RO,1c a SIMA,1d a SIMA,1c a TAU,1d a TAU,1c a UA,1d a UA",
   "1c a FI,1d a FI,1c a KHI,1d a KHI,1c a PSI,1d a PSI,1c a OOU,1d a OOU,1c a DIALECT-P de",
   "1d a DIALECT-P de,1c a OLD hu AIN,1d a OLD hu AIN,1c a ij EIE,1d a ij EIE,1c a DIALECT-P KAPA",
   "1d a DIALECT-P KAPA,1c a DIALECT-P NI,1d a DIALECT-P NI,1c a ij NI,1d a ij NI,1c a OLD hu OOU",
   "1d a OLD hu OOU,1c a SAMPI,1d a SAMPI,1c a li SHEI,1d a li SHEI,1c a OLD hu SHEI",
   "1d a OLD hu SHEI,1c a OLD hu ESH,1d a OLD hu ESH,1c a AKHMIMIC KHEI,1d a AKHMIMIC KHEI",
   "1c a DIALECT-P HORI,1d a DIALECT-P HORI,1c a OLD hu HORI,1d a OLD hu HORI,1c a OLD hu HA",
   "1d a OLD hu HA,1c a L-SHAPED HA,1d a L-SHAPED HA,1c a OLD hu HEI,1d a OLD hu HEI",
   "1c a OLD hu HAT,1d a OLD hu HAT,1c a OLD hu GANGIA,1d a OLD hu GANGIA,1c a OLD hu DJA",
   "1d a OLD hu DJA,1c a OLD hu SHIMA,1d a OLD hu SHIMA,1c a OLD NUBIAN SHIMA",
   "1d a OLD NUBIAN SHIMA,1c a OLD NUBIAN NGI,1d a OLD NUBIAN NGI,1c a OLD NUBIAN NYI",
   "1d a OLD NUBIAN NYI,1c a OLD NUBIAN WAU,1d a OLD NUBIAN WAU,1y KAI,2MI RO,2PI RO,2STAUROS",
   "2TAU RO,2KHI RO,2SHIMA SIMA,1c a ij SHEI,1d a ij SHEI,1c a ij GANGIA,1d a ij GANGIA,1ch NI i",
   "2SPIRITUS ASPER,3LENIS,1c a BOHAIRIC KHEI,1d a BOHAIRIC KHEI,=2CF9,1OLD NUBIAN hm fk",
   "3DIRECT en ah,3INDIRECT en ah,3VERSE DIVIDER,1hc bl bg,1hm fk,1MORPHOLOGICAL DIVIDER",
   "0GEORGIAN d a AN,3BAN,3GAN,3DON,3EN,3VIN,3ZEN,3TAN,3IN,3KAN,3LAS,3MAN,3NAR,3ON,3PAR,3ZHAR,3RAE",
   "3SAN,3TAR,3UN,3PHAR,3KHAR,3GHAN,3QAR,3SHIN,3CHIN,3CAN,3JIL,3CIL,3CHAR,3XAN,3JHAN,3HAE,3HE,3HIE",
   "3WE,3HAR,3HOE,=2D27,3YN,=2D2D,3AEN,=2D30,0TIFINAGH a YA,2YAB,2YABH,2YAG,2YAGHH",
   "2BERBER ACADEMY YAJ,2YAJ,2YAD,2YADH,2YADD,2YADDH,2YEY,2YAF,2YAK,2TUAREG YAK,2YAKHH,2YAH",
   "2BERBER ACADEMY YAH,2TUAREG YAH,2YAHH,2YAA,2YAKH,2TUAREG YAKH,2YAQ,2TUAREG YAQ,2YI,2YAZH",
   "2AHAGGAR YAZH,2TUAREG YAZH,2YAL,2YAM,2YAN,2TUAREG YAGN,3YANG,2YAP,2YU,2YAR,2YARR,2YAGH",
   "2TUAREG YAGH,2AYER YAGH,2YAS,2YASS,2YASH,2YAT,2YATH,2YACH,2YATT,2YAV,2YAW,2YAY,2YAZ",
   "2TAWELLEMET YAZ,2YAZZ,2YE,2YO,=2D6F,1ds a LABIALIZATION ah,1dj ah,=2D7F,1eb JOINER",
   "0ETHIOPIC hp LOA,2MOA,2ROA,2SOA,2SHOA,2BOA,2TOA,2COA,2NOA,2NYOA,2ga OA,2ZOA,2DOA,2DDOA,2JOA",
   "2THOA,2CHOA,2PHOA,2POA,2GGWA,2GGWI,2GGWEE,2GGWE,=2DA0,2SSA,2SSU,2SSI,2SSAA,2SSEE,2SSE,2SSO",
   "=2DA8,2CCA,2CCU,2CCI,2CCAA,2CCEE,2CCE,2CCO,=2DB0,2ZZA,2ZZU,2ZZI,2ZZAA,2ZZEE,2ZZE,2ZZO,=2DB8",
   "2CCHA,2CCHU,2CCHI,2CCHAA,2CCHEE,2CCHE,2CCHO,=2DC0,2QYA,2QYU,2QYI,2QYAA,2QYEE,2QYE,2QYO,=2DC8",
   "2KYA,2KYU,2KYI,2KYAA,2KYEE,2KYE,2KYO,=2DD0,2XYA,2XYU,2XYI,2XYAA,2XYEE,2XYE,2XYO,=2DD8,2GYA",
   "2GYU,2GYI,2GYAA,2GYEE,2GYE,2GYO,=2DE0,0ch ho a BE,3VE,3GHE,3DE,3ZHE,3ZE,3KA,3EL,3EM,3EN,3O,3PE",
   "3ER,3ES,3TE,3HA,3TSE,3CHE,3je,3SHCHA,3FITA,3ES-TE,3A,3IE,3DJERV,3MONOGRAPH UK,3YAT,3YU,3ig A",
   "3dh YUS,3BIG YUS,3ig BIG YUS,0g fa SUBSTITUTION MARKER,2fh SUBSTITUTION MARKER",
   "0l SUBSTITUTION ae,0g SUBSTITUTION ae,0l fh SUBSTITUTION ae,0g fh SUBSTITUTION ae",
   "0he INTERPOLATION MARKER,1fh INTERPOLATION MARKER,0fh TRANSPOSITION MARKER,0l TRANSPOSITION ae",
   "0g TRANSPOSITION ae,0he al,0l he OMISSION ae,0g he OMISSION ae,0EDITORIAL CORONIS,0PARAGRAPHOS",
   "0FORKED PARAGRAPHOS,0as FORKED PARAGRAPHOS,0HYPODIASTOLE,0fh OBELOS,0ab ANCORA,0ar ANCORA",
   "0fh ax fa,0m kc HYPHEN,0bc INTERROBANG,0PALM BRANCH,0HYPHEN b an,0cd b do i",
   "0l hw PARAPHRASE ae,0g hw PARAPHRASE ae,0cd b cg i,3o,0l n fe b QUILL,0g n fe b QUILL",
   "0kr l bg ae,1g bg ae,0di l bg ae,1g bg ae,0l SIDEWAYS U ae,0g SIDEWAYS U ae,0l m bj,0g m bj",
   "0bo cy da bl cg be,0bl cg da bo cy be,0ei au cg be,0ay cg ah,0as en ah,0n cd,0do POINT",
   "0WORD dj aa cg,0bs ed,0he cg,1ed,0bs ji,0DAGGER b l GUARD,2g GUARD,0bs DAGGER,0kr bg fl h",
   "0TWO-EM in,0THREE-EM in,0STENOGRAPHIC hm fk,0n et cy,0WIGGLY n em,0CAPITULUM,0m HYPHEN,0as ed",
   "0m LOW-REVERSED-9 dn ah,0in b l UPTURN,0m SUSPENSION ah,0bc hw KAVYKA,3b KAVYKA i,0hw KAVYKA",
   "2b cg,0m STACKED ed,0fh gs,0dt DAGGER,0MEDIEVAL ed,0PARAGRAPHUS ah,0PUNCTUS ELEVATUS ah",
   "0CORNISH VERSE DIVIDER,0fv PATTY b g CROSSBAR,3l CROSSBAR,0TIRONIAN h c ET,0MEDIEVAL dd ah",
   "1en ah,0l al ae b v,0g al ae b v,0l al ae b m v,0g al ae b m v,0kr bg l bj,2g bj,0di bg l bj",
   "2g bj,0kc HYPHEN,=2E80,0CJK RADICAL REPEAT,2CLIFF,2SECOND bl,3bo,3s,2kh,2BOX,2TABLE,2KNIFE bl",
   "3bo,2DIVINATION,2SEAL,2d bl,3bo,2LAME bl,3bo,3s,3au,2SNAKE,2THREAD,2SNOUT bl,3bo,2ib bl,3bo",
   "2kk,2RAP,=2E9B,2CHOKE,2SUN,2MOON,2DEATH,2MOTHER,2CIVILIAN,2WATER bl,3bo,2FIRE,2PAW bl,3bo",
   "2SIMPLIFIED bg TREE TRUNK,2COW,2DOG,2JADE,2BOLT OF CLOTH,2EYE,2SPIRIT bl,3bo,2BAMBOO,2SILK",
   "2fq SILK,2NET bl,3bo,3s,3au,2MESH,2SHEEP,2RAM,2EWE,2OLD,2BRUSH bl,3bo,2MEAT,2MORTAR,2GRASS bl",
   "3bo,3s,2TIGER,2CLOTHES,2gz bl,3bo,2fq SEE,2SIMPLIFIED kf,2kf,2fq SPEECH,3ke,2FOOT,2fq CART",
   "2SIMPLIFIED WALK,2WALK bl,3bo,2CITY,2fq GOLD,2eu bl,3bo,2fq eu,3GATE,2MOUND bl,3bo,2RAIN,2BLUE",
   "2fq TANNED LEATHER,3LEAF,3WIND,3FLY,2EAT bl,3bo,3s,2fq EAT,2HEAD,2fq HORSE,2BONE,2GHOST",
   "2fq FISH,3BIRD,3SALT,2SIMPLIFIED WHEAT,3YELLOW,2fq FROG,2J-SIMPLIFIED EVEN,2fq EVEN",
   "2J-SIMPLIFIED TOOTH,2fq TOOTH,2J-SIMPLIFIED DRAGON,2fq DRAGON,2TURTLE,2J-SIMPLIFIED TURTLE",
   "2fq TURTLE,=2F00,0KANGXI RADICAL bl,2em,2cg,2SLASH,2SECOND,2aw,2bo,2LID,2MAN,2LEGS,2ENTER,2ap",
   "2cq BOX,2COVER,2ICE,2TABLE,2dv BOX,2KNIFE,2POWER,2WRAP,2SPOON,2g dv BOX,2HIDING ENCLOSURE,2iu",
   "2DIVINATION,2SEAL,2CLIFF,2PRIVATE,2AGAIN,2hx,2ENCLOSURE,2EARTH,2SCHOLAR,2GO,3SLOWLY,2EVENING",
   "2BIG,2WOMAN,2CHILD,2ROOF,2INCH,2d,2LAME,2CORPSE,2SPROUT,2MOUNTAIN,2RIVER,2WORK,2ONESELF",
   "2TURBAN,2DRY,2ev THREAD,2fh CLIFF,2eu STRIDE,2bo HANDS,2SHOOT,2BOW,2SNOUT,2BRISTLE,2STEP,2ib",
   "2HALBERD,2DOOR,2kk,2BRANCH,2RAP,2ic,2DIPPER,2AXE,2al,2NOT,2SUN,2SAY,2MOON,2TREE,2LACK,2fk",
   "2DEATH,2WEAPON,2DO NOT,2COMPARE,2FUR,2CLAN,2STEAM,2WATER,2FIRE,2CLAW,2FATHER,2m X",
   "2bg TREE TRUNK,2SLICE,2FANG,2COW,2DOG,2PROFOUND,2JADE,2MELON,2TILE,2SWEET,2LIFE,2USE,2FIELD",
   "2BOLT OF CLOTH,2SICKNESS,2fh TENT,2z,2SKIN,2DISH,2EYE,2SPEAR,2f,2STONE,2SPIRIT,2TRACK,2GRAIN",
   "2CAVE,2STAND,2BAMBOO,2RICE,2SILK,2JAR,2NET,2SHEEP,2FEATHER,2OLD,2p,2PLOW,2EAR,2BRUSH,2MEAT",
   "2MINISTER,2SELF,2ARRIVE,2MORTAR,2TONGUE,2OPPOSE,2BOAT,2STOPPING,2COLOR,2GRASS,2TIGER,2INSECT",
   "2BLOOD,2WALK ENCLOSURE,2CLOTHES,2gz,2SEE,2kf,2SPEECH,2VALLEY,2BEAN,2PIG,2BADGER,2ke,2RED,2RUN",
   "2FOOT,2BODY,2CART,2BITTER,2MORNING,2WALK,2CITY,2WINE,2DISTINGUISH,2VILLAGE,2GOLD,2eu,2GATE",
   "2MOUND,2SLAVE,2ev TAILED BIRD,2RAIN,2BLUE,2WRONG,2cn,2LEATHER,2TANNED LEATHER,2LEEK,2SOUND",
   "2LEAF,2WIND,2FLY,2EAT,2HEAD,2FRAGRANT,2HORSE,2BONE,2TALL,2HAIR,2FIGHT,2SACRIFICIAL WINE",
   "2CAULDRON,2GHOST,2FISH,2BIRD,2SALT,2DEER,2WHEAT,2HEMP,2YELLOW,2MILLET,2x,2EMBROIDERY,2FROG",
   "2TRIPOD,2DRUM,2RAT,2NOSE,2EVEN,2TOOTH,2DRAGON,2TURTLE,2FLUTE,=2FF0,0gb DESCRIPTION gt l TO g",
   "3i TO o,3l TO aa p g,3i TO aa p o,3hm SURROUND,3SURROUND jk i,5o,5l,5ba l,6g,5aq l,3OVERLAID",
   "3SURROUND jk g,5aq g,3t REFLECTION,3ROTATION,1km,1ed,1hm fk,0DITTO ah",
   "0JAPANESE INDUSTRIAL STANDARD y,0gb la ah,1CLOSING ah,1cx dq,0l fa ae,0g fa ae,0l m fa ae",
   "0g m fa ae,0l fm ae,0g fm ae,0l z fm ae,0g z fm ae,0l x kw ae,0g x kw ae,0POSTAL ah,0GETA ah",
   "0l hq ke ae,0g hq ke ae,0l z kw ae,0g z kw ae,0l z hq ke ae,0g z hq ke ae,0l z al ae",
   "0g z al ae,0WAVE in,0as m PRIME dn ah,0m PRIME dn ah,0hw m PRIME dn ah,0POSTAL ah cn",
   "0HANGZHOU NUMERAL bl,2bo,2s,2au,2ay,2et,2av,2ap,2ci,0gb LEVEL ew ah,1RISING ew ah",
   "1DEPARTING ew ah,1ENTERING ew ah,0HANGUL ck cg ew ah,1m cg ew ah,0WAVY in,0n KANA REPEAT ah",
   "3b VOICED SOUND ah,3ah ba bg,3b VOICED SOUND ah ba bg,3ah aq bg,0ct POSTAL ah",
   "0gb TELEGRAPH em FEED dj y,0HANGZHOU NUMERAL iu,2ey,2it,0n gb la ah,0MASU ah",
   "0PART ALTERNATION ah,0gb VARIATION INDICATOR,1bg FILL km,=3041,0HIRAGANA a d A,2A,2d I,2I,2d U",
   "2U,2d E,2E,2d O,2O,2KA,2GA,2KI,2GI,2KU,2GU,2KE,2GE,2KO,2GO,2SA,2ZA,2SI,2ZI,2SU,2ZU,2SE,2ZE,2SO",
   "2ZO,2TA,2DA,2TI,2DI,2d TU,2TU,2DU,2TE,2DE,2TO,2DO,2NA,2NI,2NU,2NE,2NO,2HA,2BA,2PA,2HI,2BI,2PI",
   "2HU,2BU,2PU,2HE,2BE,2PE,2HO,2BO,2PO,2MA,2MI,2MU,2ME,2MO,2d YA,2YA,2d YU,2YU,2d YO,2YO,2RA,2RI",
   "2RU,2RE,2RO,2d WA,2WA,2WI,2WE,2WO,2N,2VU,2d KA,3KE,=3099,0ch lm VOICED SOUND ah",
   "2SEMI-VOICED SOUND ah,0lm VOICED SOUND ah,1SEMI-VOICED SOUND ah,0HIRAGANA la ah,1VOICED la ah",
   "1fz YORI,0lm m HYPHEN,0ll a d A,2A,2d I,2I,2d U,2U,2d E,2E,2d O,2O,2KA,2GA,2KI,2GI,2KU,2GU,2KE",
   "2GE,2KO,2GO,2SA,2ZA,2SI,2ZI,2SU,2ZU,2SE,2ZE,2SO,2ZO,2TA,2DA,2TI,2DI,2d TU,2TU,2DU,2TE,2DE,2TO",
   "2DO,2NA,2NI,2NU,2NE,2NO,2HA,2BA,2PA,2HI,2BI,2PI,2HU,2BU,2PU,2HE,2BE,2PE,2HO,2BO,2PO,2MA,2MI",
   "2MU,2ME,2MO,2d YA,2YA,2d YU,2YU,2d YO,2YO,2RA,2RI,2RU,2RE,2RO,2d WA,2WA,2WI,2WE,2WO,2N,2VU",
   "2d KA,3KE,2VA,2VI,2VE,2VO,1aa cg,0lm PROLONGED SOUND ah,0ll la ah,1VOICED la ah,1fz KOTO,=3105",
   "0BOPOMOFO a B,2P,2M,2F,2D,2T,2N,2L,2G,2K,2H,2J,2Q,2X,2ZH,2CH,2SH,2R,2Z,2C,2S,2A,2O,2E,2EH,2AI",
   "2EI,2AU,2OU,2AN,2EN,2ANG,2ENG,2ER,2I,2U,2IU,2V,2NG,2GN,2IH,2O b cg i,2NN,=3131",
   "0HANGUL a KIYEOK,2SSANGKIYEOK,2KIYEOK-SIOS,2NIEUN,2NIEUN-CIEUC,2NIEUN-HIEUH,2TIKEUT",
   "2SSANGTIKEUT,2RIEUL,2RIEUL-KIYEOK,2RIEUL-MIEUM,2RIEUL-PIEUP,2RIEUL-SIOS,2RIEUL-THIEUTH",
   "2RIEUL-PHIEUPH,2RIEUL-HIEUH,2MIEUM,2PIEUP,2SSANGPIEUP,2PIEUP-SIOS,2SIOS,2SSANGSIOS,2IEUNG",
   "2CIEUC,2SSANGCIEUC,2CHIEUCH,2KHIEUKH,2THIEUTH,2PHIEUPH,2HIEUH,2A,2AE,2YA,2YAE,2EO,2E,2YEO,2YE",
   "2O,2WA,2WAE,2OE,2YO,2U,2WEO,2WE,2WI,2YU,2EU,2YI,2I,1FILLER,1a SSANGNIEUN,2NIEUN-TIKEUT",
   "2NIEUN-SIOS,2NIEUN-PANSIOS,2RIEUL-KIYEOK-SIOS,2RIEUL-TIKEUT,2RIEUL-PIEUP-SIOS,2RIEUL-PANSIOS",
   "2RIEUL-YEORINHIEUH,2MIEUM-PIEUP,2MIEUM-SIOS,2MIEUM-PANSIOS,2KAPYEOUNMIEUM,2PIEUP-KIYEOK",
   "2PIEUP-TIKEUT,2PIEUP-SIOS-KIYEOK,2PIEUP-SIOS-TIKEUT,2PIEUP-CIEUC,2PIEUP-THIEUTH,2KAPYEOUNPIEUP",
   "2KAPYEOUNSSANGPIEUP,2SIOS-KIYEOK,2SIOS-NIEUN,2SIOS-TIKEUT,2SIOS-PIEUP,2SIOS-CIEUC,2PANSIOS",
   "2SSANGIEUNG,2YESIEUNG,2YESIEUNG-SIOS,2YESIEUNG-PANSIOS,2KAPYEOUNPHIEUPH,2SSANGHIEUH",
   "2YEORINHIEUH,2YO-YA,2YO-YAE,2YO-I,2YU-YEO,2YU-YE,2YU-I,2ARAEA,2ARAEAE,=3190",
   "0gb ANNOTATION LINKING ah,2hj ah,2bl ah,2bo ah,2s ah,2au ah,2kr ah,2aa ah,2di ah,2FIRST ah",
   "2SECOND ah,2THIRD ah,2FOURTH ah,2HEAVEN ah,2EARTH ah,2MAN ah,0BOPOMOFO a BU,2ZI,2JI,2GU,2EE",
   "2ENN,2OO,2ONN,2IR,2ANN,2INN,2UNN,2IM,2NGG,2AINN,2AUNN,2AM,2OM,2ONG,2INNN,1q a P,3T,3K,3H,1a GH",
   "2LH,2ZY,1q a G,1a GW,2KW,2OE,2AH,0CJK v T,2WG,2XG,2BXG,2SW,2HZZ,2HZG,2HP,2HZWG,2SZWG,2HZT",
   "2HZZP,2HPWG,2HZW,2HZZZ,2N,2H,2S,2P,2SP,2D,2HZ,2HG,2SZ,2SWZ,2ST,2SG,2PD,2PZ,2TN,2SZZ,2SWG,2HXWG",
   "2HZZZG,2PG,2Q,2HXG,2SZP,=31EF,0gb DESCRIPTION gt SUBTRACTION,0ll a d KU,3SI,3SU,3TO,3NU,3HA",
   "3HI,3HU,3HE,3HO,3MU,3RA,3RI,3RU,3RE,3RO,0PARENTHESIZED HANGUL KIYEOK,2NIEUN,2TIKEUT,2RIEUL",
   "2MIEUM,2PIEUP,2SIOS,2IEUNG,2CIEUC,2CHIEUCH,2KHIEUKH,2THIEUTH,2PHIEUPH,2HIEUH,2KIYEOK A",
   "2NIEUN A,2TIKEUT A,2RIEUL A,2MIEUM A,2PIEUP A,2SIOS A,2IEUNG A,2CIEUC A,2CHIEUCH A,2KHIEUKH A",
   "2THIEUTH A,2PHIEUPH A,2HIEUH A,2CIEUC U,1KOREAN gt OJEON,3O HU,=3220,1IDEOGRAPH bl,2bo,2s,2au",
   "2ay,2et,2av,2ap,2ci,2iu,2MOON,2FIRE,2WATER,2WOOD,2METAL,2EARTH,2SUN,2STOCK,2HAVE,2SOCIETY",
   "2NAME,2SPECIAL,2FINANCIAL,2CONGRATULATION,2LABOR,2REPRESENT,2CALL,2STUDY,2SUPERVISE",
   "2ENTERPRISE,2RESOURCE,2ALLIANCE,2FESTIVAL,2REST,2SELF,2REACH,0ct IDEOGRAPH en,2KINDERGARTEN",
   "2SCHOOL,2KOTO,1cx iu ON x al,2ey ON x al,2it ON x al,2FORTY ON x al,2hv ON x al,2SIXTY ON x al",
   "2er ON x al,2EIGHTY ON x al,0PARTNERSHIP h,0ct cx ey bl,3bo,3s,3au,3ay,3et,3av,3ap,3ci,2it,3bl",
   "3bo,3s,3au,3ay,1HANGUL KIYEOK,2NIEUN,2TIKEUT,2RIEUL,2MIEUM,2PIEUP,2SIOS,2IEUNG,2CIEUC,2CHIEUCH",
   "2KHIEUKH,2THIEUTH,2PHIEUPH,2HIEUH,2KIYEOK A,2NIEUN A,2TIKEUT A,2RIEUL A,2MIEUM A,2PIEUP A",
   "2SIOS A,2IEUNG A,2CIEUC A,2CHIEUCH A,2KHIEUKH A,2THIEUTH A,2PHIEUPH A,2HIEUH A",
   "1KOREAN gt CHAMKO,3JUEUI,1HANGUL IEUNG U,0KOREAN STANDARD y,0ct IDEOGRAPH bl,2bo,2s,2au,2ay",
   "2et,2av,2ap,2ci,2iu,2MOON,2FIRE,2WATER,2WOOD,2METAL,2EARTH,2SUN,2STOCK,2HAVE,2SOCIETY,2NAME",
   "2SPECIAL,2FINANCIAL,2CONGRATULATION,2LABOR,2SECRET,2MALE,2FEMALE,2SUITABLE,2EXCELLENT,2PRINT",
   "2ATTENTION,2ITEM,2REST,2COPY,2CORRECT,2fb,2ca,2hw,2l,2g,2MEDICINE,2RELIGION,2STUDY,2SUPERVISE",
   "2ENTERPRISE,2RESOURCE,2ALLIANCE,2NIGHT,1cx it et,3av,3ap,3ci,2FORTY,3bl,3bo,3s,3au,3ay,3et,3av",
   "3ap,3ci,2hv,0gb TELEGRAPH y FOR JANUARY,4FEBRUARY,4MARCH,4APRIL,4MAY,4JUNE,4JULY,4AUGUST",
   "4SEPTEMBER,4OCTOBER,4NOVEMBER,4DECEMBER,0al HG,1ERG,1EV,0LIMITED LIABILITY h,0ct ll A,2I,2U,2E",
   "2O,2KA,2KI,2KU,2KE,2KO,2SA,2SI,2SU,2SE,2SO,2TA,2TI,2TU,2TE,2TO,2NA,2NI,2NU,2NE,2NO,2HA,2HI,2HU",
   "2HE,2HO,2MA,2MI,2MU,2ME,2MO,2YA,2YU,2YO,2RA,2RI,2RU,2RE,2RO,2WA,2WI,2WE,2WO,0al ERA NAME REIWA",
   "1APAATO,1ARUHUA,1ANPEA,1AARU,1ININGU,1INTI,1UON,1ESUKUUDO,1EEKAA,1ONSU,1OOMU,1KAIRI,1KARATTO",
   "1KARORII,1GARON,1GANMA,1GIGA,1GINII,1KYURII,1GIRUDAA,1KIRO,1KIROGURAMU,1KIROMEETORU,1KIROWATTO",
   "1GURAMU,1GURAMUTON,1KURUZEIRO,1KUROONE,1KEESU,1KORUNA,1KOOPO,1SAIKURU,1SANTIIMU,1SIRINGU",
   "1SENTI,1SENTO,1DAASU,1DESI,1DORU,1TON,1NANO,1NOTTO,1HAITU,1PAASENTO,1PAATU,1BAARERU,1PIASUTORU",
   "1PIKURU,1PIKO,1BIRU,1HUARADDO,1HUIITO,1BUSSYERU,1HURAN,1HEKUTAARU,1PESO,1PENIHI,1HERUTU,1PENSU",
   "1PEEZI,1BEETA,1POINTO,1BORUTO,1HON,1PONDO,1HOORU,1HOON,1MAIKURO,1MAIRU,1MAHHA,1MARUKU,1MANSYON",
   "1MIKURON,1MIRI,1MIRIBAARU,1MEGA,1MEGATON,1MEETORU,1YAADO,1YAARU,1YUAN,1RITTORU,1RIRA,1RUPII",
   "1RUUBURU,1REMU,1RENTOGEN,1WATTO,0gb TELEGRAPH y FOR HOUR dq,5bl,5bo,5s,5au,5ay,5et,5av,5ap,5ci",
   "5iu,5ELEVEN,5TWELVE,5THIRTEEN,5FOURTEEN,5FIFTEEN,5SIXTEEN,5SEVENTEEN,5EIGHTEEN,5NINETEEN,5ey",
   "5TWENTY-ONE,5TWENTY-TWO,5TWENTY-THREE,5TWENTY-FOUR,0al HPA,1DA,1AU,1fe,1OV,1PC,1DM,2ei,2CUBED",
   "1IU,1ERA NAME HEISEI,3SYOUWA,3TAISYOU,3MEIZI,1CORPORATION,1PA AMPS,1NA,1MU A,1MA,1KA,1KB,1MB",
   "1GB,1CAL,1KCAL,1PF,1NF,1MU F,2G,1MG,1KG,1HZ,1KHZ,1MHZ,1GHZ,1THZ,1MU L,1ML,1DL,1KL,1FM,1NM",
   "1MU M,1MM,1CM,1KM,1MM ei,1CM ei,1M ei,1KM ei,1MM CUBED,1CM CUBED,1M CUBED,1KM CUBED,1M da S",
   "4ei,1PA,1KPA,1MPA,1GPA,1RAD,2da S,4ei,1PS,1NS,1MU S,1MS,1PV,1NV,1MU V,1MV,1KV,1MV MEGA,1PW,1NW",
   "1MU W,1MW,1KW,1MW MEGA,1K OHM,1M OHM,1AM,1BQ,1CC,1CD,1C da KG,1CO,1DB,1GY,1HA,1HP,1IN,1KK",
   "1KM c,1KT,1LM,1LN,1LOG,1LX,1MB d,1MIL,1MOL,1PH,1PM,1PPM,1PR,1SR,1SV,1WB,1V da M,1A da M",
   "0gb TELEGRAPH y FOR DAY bl,5bo,5s,5au,5ay,5et,5av,5ap,5ci,5iu,5ELEVEN,5TWELVE,5THIRTEEN",
   "5FOURTEEN,5FIFTEEN,5SIXTEEN,5SEVENTEEN,5EIGHTEEN,5NINETEEN,5ey,5TWENTY-ONE,5TWENTY-TWO",
   "5TWENTY-THREE,5TWENTY-FOUR,5TWENTY-FIVE,5TWENTY-SIX,5TWENTY-SEVEN,5TWENTY-EIGHT,5TWENTY-NINE",
   "5it,5THIRTY-ONE,0al GAL,=4DC0,0HEXAGRAM FOR THE CREATIVE HEAVEN,3RECEPTIVE EARTH",
   "2DIFFICULTY AT THE BEGINNING,2YOUTHFUL FOLLY,2WAITING,2CONFLICT,2THE ARMY,2HOLDING TOGETHER",
   "2d TAMING,2TREADING,2PEACE,2STANDSTILL,2FELLOWSHIP,2GREAT POSSESSION,2MODESTY,2ENTHUSIASM",
   "2FOLLOWING,2WORK ON THE DECAYED,2APPROACH,2CONTEMPLATION,2BITING kq,2GRACE,2SPLITTING APART",
   "2RETURN,2INNOCENCE,2GREAT TAMING,2hx CORNERS,2GREAT PREPONDERANCE,2THE ABYSMAL WATER",
   "3CLINGING FIRE,2INFLUENCE,2DURATION,2RETREAT,2GREAT POWER,2PROGRESS,2DARKENING OF THE bq",
   "2THE FAMILY,2OPPOSITION,2OBSTRUCTION,2DELIVERANCE,2DECREASE,2INCREASE,2BREAKTHROUGH",
   "2COMING TO MEET,2GATHERING TOGETHER,2PUSHING UPWARD,2OPPRESSION,2THE WELL,2REVOLUTION",
   "2THE CAULDRON,3AROUSING THUNDER,3KEEPING STILL MOUNTAIN,2DEVELOPMENT,2THE MARRYING MAIDEN",
   "2ABUNDANCE,2THE WANDERER,3GENTLE WIND,3JOYOUS LAKE,2DISPERSION,2LIMITATION,2INNER TRUTH",
   "2d PREPONDERANCE,2AFTER COMPLETION,2BEFORE COMPLETION"]

/-- Yi syllables and later letters. -/
def syllableNames : List String :=
  ["=A000,0YI hp IT,2IX,2I,2IP,2IET,2IEX,2IE,2IEP,2AT,2AX,2A,2AP,2UOX,2UO,2UOP,2OT,2OX,2O,2OP,2EX",
   "2E,2WU,2BIT,2BIX,2BI,2BIP,2BIET,2BIEX,2BIE,2BIEP,2BAT,2BAX,2BA,2BAP,2BUOX,2BUO,2BUOP,2BOT,2BOX",
   "2BO,2BOP,2BEX,2BE,2BEP,2BUT,2BUX,2BU,2BUP,2BURX,2BUR,2BYT,2BYX,2BY,2BYP,2BYRX,2BYR,2PIT,2PIX",
   "2PI,2PIP,2PIEX,2PIE,2PIEP,2PAT,2PAX,2PA,2PAP,2PUOX,2PUO,2PUOP,2POT,2POX,2PO,2POP,2PUT,2PUX,2PU",
   "2PUP,2PURX,2PUR,2PYT,2PYX,2PY,2PYP,2PYRX,2PYR,2BBIT,2BBIX,2BBI,2BBIP,2BBIET,2BBIEX,2BBIE",
   "2BBIEP,2BBAT,2BBAX,2BBA,2BBAP,2BBUOX,2BBUO,2BBUOP,2BBOT,2BBOX,2BBO,2BBOP,2BBEX,2BBE,2BBEP",
   "2BBUT,2BBUX,2BBU,2BBUP,2BBURX,2BBUR,2BBYT,2BBYX,2BBY,2BBYP,2NBIT,2NBIX,2NBI,2NBIP,2NBIEX,2NBIE",
   "2NBIEP,2NBAT,2NBAX,2NBA,2NBAP,2NBOT,2NBOX,2NBO,2NBOP,2NBUT,2NBUX,2NBU,2NBUP,2NBURX,2NBUR,2NBYT",
   "2NBYX,2NBY,2NBYP,2NBYRX,2NBYR,2HMIT,2HMIX,2HMI,2HMIP,2HMIEX,2HMIE,2HMIEP,2HMAT,2HMAX,2HMA",
   "2HMAP,2HMUOX,2HMUO,2HMUOP,2HMOT,2HMOX,2HMO,2HMOP,2HMUT,2HMUX,2HMU,2HMUP,2HMURX,2HMUR,2HMYX",
   "2HMY,2HMYP,2HMYRX,2HMYR,2MIT,2MIX,2MI,2MIP,2MIEX,2MIE,2MIEP,2MAT,2MAX,2MA,2MAP,2MUOT,2MUOX",
   "2MUO,2MUOP,2MOT,2MOX,2MO,2MOP,2MEX,2ME,2MUT,2MUX,2MU,2MUP,2MURX,2MUR,2MYT,2MYX,2MY,2MYP,2FIT",
   "2FIX,2FI,2FIP,2FAT,2FAX,2FA,2FAP,2FOX,2FO,2FOP,2FUT,2FUX,2FU,2FUP,2FURX,2FUR,2FYT,2FYX,2FY",
   "2FYP,2VIT,2VIX,2VI,2VIP,2VIET,2VIEX,2VIE,2VIEP,2VAT,2VAX,2VA,2VAP,2VOT,2VOX,2VO,2VOP,2VEX,2VEP",
   "2VUT,2VUX,2VU,2VUP,2VURX,2VUR,2VYT,2VYX,2VY,2VYP,2VYRX,2VYR,2DIT,2DIX,2DI,2DIP,2DIEX,2DIE",
   "2DIEP,2DAT,2DAX,2DA,2DAP,2DUOX,2DUO,2cg,2DOX,2DO,2DOP,2DEX,2DE,2DEP,2DUT,2DUX,2DU,2DUP,2DURX",
   "2DUR,2TIT,2TIX,2TI,2TIP,2TIEX,2TIE,2TIEP,2TAT,2TAX,2TA,2TAP,2TUOT,2TUOX,2TUO,2TUOP,2TOT,2TOX",
   "2TO,2kr,2TEX,2TE,2TEP,2TUT,2TUX,2TU,2TUP,2TURX,2TUR,2DDIT,2DDIX,2DDI,2DDIP,2DDIEX,2DDIE,2DDIEP",
   "2DDAT,2DDAX,2DDA,2DDAP,2DDUOX,2DDUO,2DDUOP,2DDOT,2DDOX,2DDO,2DDOP,2DDEX,2DDE,2DDEP,2DDUT,2DDUX",
   "2DDU,2DDUP,2DDURX,2DDUR,2NDIT,2NDIX,2NDI,2NDIP,2NDIEX,2NDIE,2NDAT,2NDAX,2NDA,2NDAP,2NDOT,2NDOX",
   "2NDO,2NDOP,2NDEX,2NDE,2NDEP,2NDUT,2NDUX,2NDU,2NDUP,2NDURX,2NDUR,2HNIT,2HNIX,2HNI,2HNIP,2HNIET",
   "2HNIEX,2HNIE,2HNIEP,2HNAT,2HNAX,2HNA,2HNAP,2HNUOX,2HNUO,2HNOT,2HNOX,2HNOP,2HNEX,2HNE,2HNEP",
   "2HNUT,2NIT,2NIX,2NI,2NIP,2NIEX,2NIE,2NIEP,2NAX,2NA,2NAP,2NUOX,2NUO,2NUOP,2NOT,2NOX,2NO,2NOP",
   "2NEX,2NE,2NEP,2NUT,2NUX,2NU,2NUP,2NURX,2NUR,2HLIT,2HLIX,2HLI,2HLIP,2HLIEX,2HLIE,2HLIEP,2HLAT",
   "2HLAX,2HLA,2HLAP,2HLUOX,2HLUO,2HLUOP,2HLOX,2HLO,2HLOP,2HLEX,2HLE,2HLEP,2HLUT,2HLUX,2HLU,2HLUP",
   "2HLURX,2HLUR,2HLYT,2HLYX,2HLY,2HLYP,2HLYRX,2HLYR,2LIT,2LIX,2LI,2LIP,2LIET,2LIEX,2LIE,2LIEP",
   "2LAT,2LAX,2LA,2LAP,2LUOT,2LUOX,2LUO,2LUOP,2LOT,2LOX,2LO,2LOP,2LEX,2LE,2LEP,2LUT,2LUX,2LU,2LUP",
   "2LURX,2LUR,2LYT,2LYX,2LY,2LYP,2LYRX,2LYR,2GIT,2GIX,2GI,2GIP,2GIET,2GIEX,2GIE,2GIEP,2GAT,2GAX",
   "2GA,2GAP,2GUOT,2GUOX,2GUO,2GUOP,2GOT,2GOX,2GO,2GOP,2GET,2GEX,2GE,2GEP,2GUT,2GUX,2GU,2GUP,2GURX",
   "2GUR,2KIT,2KIX,2KI,2KIP,2KIEX,2KIE,2KIEP,2KAT,2KAX,2KA,2KAP,2KUOX,2KUO,2KUOP,2KOT,2KOX,2KO",
   "2KOP,2KET,2KEX,2KE,2KEP,2KUT,2KUX,2KU,2KUP,2KURX,2KUR,2GGIT,2GGIX,2GGI,2GGIEX,2GGIE,2GGIEP",
   "2GGAT,2GGAX,2GGA,2GGAP,2GGUOT,2GGUOX,2GGUO,2GGUOP,2GGOT,2GGOX,2GGO,2GGOP,2GGET,2GGEX,2GGE",
   "2GGEP,2GGUT,2GGUX,2GGU,2GGUP,2GGURX,2GGUR,2MGIEX,2MGIE,2MGAT,2MGAX,2MGA,2MGAP,2MGUOX,2MGUO",
   "2MGUOP,2MGOT,2MGOX,2MGO,2MGOP,2MGEX,2MGE,2MGEP,2MGUT,2MGUX,2MGU,2MGUP,2MGURX,2MGUR,2HXIT,2HXIX",
   "2HXI,2HXIP,2HXIET,2HXIEX,2HXIE,2HXIEP,2HXAT,2HXAX,2HXA,2HXAP,2HXUOT,2HXUOX,2HXUO,2HXUOP,2HXOT",
   "2HXOX,2HXO,2HXOP,2HXEX,2HXE,2HXEP,2NGIEX,2NGIE,2NGIEP,2NGAT,2NGAX,2jd,2NGAP,2NGUOT,2NGUOX",
   "2NGUO,2NGOT,2NGOX,2NGO,2NGOP,2NGEX,2NGE,2NGEP,2HIT,2HIEX,2HIE,2HAT,2HAX,2HA,2HAP,2HUOT,2HUOX",
   "2HUO,2HUOP,2HOT,2HOX,2HO,2HOP,2HEX,2HE,2HEP,2WAT,2WAX,2WA,2WAP,2WUOX,2WUO,2WUOP,2WOX,2WO,2WOP",
   "2WEX,2WE,2WEP,2ZIT,2ZIX,2ZI,2ZIP,2ZIEX,2ZIE,2ZIEP,2ZAT,2ZAX,2ZA,2ZAP,2ZUOX,2ZUO,2ZUOP,2ZOT",
   "2ZOX,2ZO,2ZOP,2ZEX,2ZE,2ZEP,2ZUT,2ZUX,2ZU,2ZUP,2ZURX,2ZUR,2ZYT,2ZYX,2ZY,2ZYP,2ZYRX,2ZYR,2CIT",
   "2CIX,2CI,2CIP,2CIET,2CIEX,2CIE,2CIEP,2CAT,2CAX,2CA,2CAP,2CUOX,2CUO,2CUOP,2COT,2COX,2CO,2COP",
   "2CEX,2CE,2CEP,2CUT,2CUX,2CU,2CUP,2CURX,2CUR,2CYT,2CYX,2CY,2CYP,2CYRX,2CYR,2ZZIT,2ZZIX,2ZZI",
   "2ZZIP,2ZZIET,2ZZIEX,2ZZIE,2ZZIEP,2ZZAT,2ZZAX,2ZZA,2ZZAP,2ZZOX,2ZZO,2ZZOP,2ZZEX,2ZZE,2ZZEP",
   "2ZZUX,2ZZU,2ZZUP,2ZZURX,2ZZUR,2ZZYT,2ZZYX,2ZZY,2ZZYP,2ZZYRX,2ZZYR,2NZIT,2NZIX,2NZI,2NZIP",
   "2NZIEX,2NZIE,2NZIEP,2NZAT,2NZAX,2NZA,2NZAP,2NZUOX,2NZUO,2NZOX,2NZOP,2NZEX,2NZE,2NZUX,2NZU",
   "2NZUP,2NZURX,2NZUR,2NZYT,2NZYX,2NZY,2NZYP,2NZYRX,2NZYR,2SIT,2et,2SI,2SIP,2SIEX,2SIE,2SIEP,2SAT",
   "2SAX,2SA,2SAP,2SUOX,2SUO,2SUOP,2SOT,2SOX,2SO,2SOP,2SEX,2SE,2SEP,2SUT,2SUX,2SU,2SUP,2SURX,2SUR",
   "2SYT,2SYX,2SY,2SYP,2SYRX,2SYR,2SSIT,2SSIX,2SSI,2SSIP,2SSIEX,2SSIE,2SSIEP,2SSAT,2SSAX,2SSA",
   "2SSAP,2SSOT,2SSOX,2SSO,2SSOP,2SSEX,2SSE,2SSEP,2SSUT,2SSUX,2SSU,2SSUP,2SSYT,2SSYX,2SSY,2SSYP",
   "2SSYRX,2SSYR,2ZHAT,2ZHAX,2ZHA,2ZHAP,2ZHUOX,2ZHUO,2ZHUOP,2ZHOT,2ZHOX,2ZHO,2ZHOP,2ZHET,2ZHEX",
   "2ZHE,2ZHEP,2ZHUT,2ZHUX,2ZHU,2ZHUP,2ZHURX,2ZHUR,2ZHYT,2ZHYX,2ZHY,2ZHYP,2ZHYRX,2ZHYR,2CHAT,2CHAX",
   "2jy,2CHAP,2CHUOT,2CHUOX,2CHUO,2CHUOP,2CHOT,2CHOX,2CHO,2CHOP,2CHET,2CHEX,2CHE,2CHEP,2CHUX,2CHU",
   "2CHUP,2CHURX,2CHUR,2CHYT,2CHYX,2CHY,2CHYP,2CHYRX,2CHYR,2RRAX,2RRA,2RRUOX,2RRUO,2RROT,2RROX",
   "2RRO,2RROP,2RRET,2RREX,2RRE,2RREP,2RRUT,2RRUX,2RRU,2RRUP,2RRURX,2RRUR,2RRYT,2RRYX,2RRY,2RRYP",
   "2RRYRX,2RRYR,2NRAT,2NRAX,2NRA,2NRAP,2NROX,2NRO,2NROP,2NRET,2NREX,2NRE,2NREP,2NRUT,2NRUX,2NRU",
   "2NRUP,2NRURX,2NRUR,2NRYT,2NRYX,2NRY,2NRYP,2NRYRX,2NRYR,2SHAT,2SHAX,2je,2SHAP,2SHUOX,2SHUO",
   "2SHUOP,2SHOT,2SHOX,2SHO,2SHOP,2SHET,2SHEX,2SHE,2SHEP,2SHUT,2SHUX,2SHU,2SHUP,2SHURX,2SHUR,2SHYT",
   "2SHYX,2SHY,2SHYP,2SHYRX,2SHYR,2RAT,2RAX,2RA,2RAP,2RUOX,2RUO,2RUOP,2ROT,2ROX,2RO,2ROP,2REX,2RE",
   "2REP,2RUT,2RUX,2RU,2RUP,2RURX,2RUR,2RYT,2RYX,2RY,2RYP,2RYRX,2RYR,2JIT,2JIX,2JI,2JIP,2JIET",
   "2JIEX,2JIE,2JIEP,2JUOT,2JUOX,2JUO,2JUOP,2JOT,2JOX,2JO,2JOP,2JUT,2JUX,2JU,2JUP,2JURX,2JUR,2JYT",
   "2JYX,2JY,2JYP,2JYRX,2JYR,2QIT,2QIX,2QI,2QIP,2QIET,2QIEX,2QIE,2QIEP,2QUOT,2QUOX,2QUO,2QUOP,2QOT",
   "2QOX,2QO,2QOP,2QUT,2QUX,2QU,2QUP,2QURX,2QUR,2QYT,2QYX,2QY,2QYP,2QYRX,2QYR,2JJIT,2JJIX,2JJI",
   "2JJIP,2JJIET,2JJIEX,2JJIE,2JJIEP,2JJUOX,2JJUO,2JJUOP,2JJOT,2JJOX,2JJO,2JJOP,2JJUT,2JJUX,2JJU",
   "2JJUP,2JJURX,2JJUR,2JJYT,2JJYX,2JJY,2JJYP,2NJIT,2NJIX,2NJI,2NJIP,2NJIET,2NJIEX,2NJIE,2NJIEP",
   "2NJUOX,2NJUO,2NJOT,2NJOX,2NJO,2NJOP,2NJUX,2NJU,2NJUP,2NJURX,2NJUR,2NJYT,2NJYX,2NJY,2NJYP",
   "2NJYRX,2NJYR,2NYIT,2NYIX,2NYI,2NYIP,2NYIET,2NYIEX,2NYIE,2NYIEP,2NYUOX,2NYUO,2NYUOP,2NYOT,2NYOX",
   "2NYO,2NYOP,2NYUT,2NYUX,2NYU,2NYUP,2XIT,2XIX,2XI,2XIP,2XIET,2XIEX,2XIE,2XIEP,2XUOX,2XUO,2XOT",
   "2XOX,2XO,2XOP,2XYT,2XYX,2XY,2XYP,2XYRX,2XYR,2YIT,2YIX,2YI,2YIP,2YIET,2YIEX,2YIE,2YIEP,2YUOT",
   "2YUOX,2YUO,2YUOP,2YOT,2YOX,2YO,2YOP,2YUT,2YUX,2YU,2YUP,2YURX,2YUR,2YYT,2YYX,2YY,2YYP,2YYRX",
   "2YYR,=A490,1RADICAL QOT,2LI,2KIT,2NYIP,2CYP,2SSI,2GGOP,2GEP,2MI,2HXIT,2LYR,2BBUT,2MOP,2YO,2PUT",
   "2HXUO,2TAT,2GA,2ZUP,2CYT,2DDUR,2BUR,2GGUO,2NYOP,2TU,2OP,2JJUT,2ZOT,2PYT,2HMO,2YIT,2VUR,2SHY",
   "2VEP,2ZA,2JO,2NZUP,2JJY,2GOT,2JJIE,2WO,2DU,2SHUR,2LIE,2CY,2CUOP,2CIP,2HXOP,2SHAT,2ZUR,2SHOP",
   "2CHE,2ZZIET,2NBIE,2KE,=A4D0,0LISU a BA,2PA,2PHA,2DA,2TA,2kp,2GA,2KA,2ka,2JA,2CA,2jy,2DZA,2TSA",
   "2TSHA,2MA,2NA,2LA,2SA,2ZHA,2ZA,2jd,2HA,2XA,2HHA,2FA,2WA,2je,2YA,2GHA,2A,2AE,2E,2EU,2I,2O,2U",
   "2UE,2UH,2OE,2ew MYA TI,3NA PO,3MYA CYA,4BO,4NA,4JEU,1be ed,2hm fk,0VAI hp EE,2EEN,2HEE,2WEE",
   "2WEEN,2PEE,2BHEE,2BEE,2MBEE,2KPEE,2MGBEE,2GBEE,2FEE,2VEE,2TEE,2THEE,2DHEE,2DHHEE,2LEE,2REE",
   "2DEE,2NDEE,2SEE,2SHEE,2ZEE,2ZHEE,2CEE,2JEE,2NJEE,2YEE,2KEE,2NGGEE,2GEE,2MEE,2NEE,2NYEE,2I,2IN",
   "2HI,2HIN,2WI,2WIN,2PI,2BHI,2BI,2MBI,2KPI,2MGBI,2GBI,2FI,2VI,2TI,2THI,2DHI,2DHHI,2LI,2RI,2DI",
   "2NDI,2SI,2SHI,2ZI,2ZHI,2CI,2JI,2NJI,2YI,2KI,2NGGI,2GI,2MI,2NI,2NYI,2A,2AN,2NGAN,2HA,2HAN,2WA",
   "2WAN,2PA,2BHA,2BA,2MBA,2KPA,2KPAN,2MGBA,2GBA,2FA,2VA,2TA,2kp,2DHA,2DHHA,2LA,2RA,2DA,2NDA,2SA",
   "2je,2ZA,2ZHA,2CA,2JA,2NJA,2YA,2KA,2KAN,2NGGA,2GA,2MA,2NA,2kb,2OO,2OON,2HOO,2WOO,2WOON,2POO",
   "2BHOO,2BOO,2MBOO,2KPOO,2MGBOO,2GBOO,2FOO,2VOO,2TOO,2THOO,2DHOO,2DHHOO,2LOO,2ROO,2DOO,2NDOO",
   "2SOO,2SHOO,2ZOO,2ZHOO,2COO,2JOO,2NJOO,2YOO,2KOO,2NGGOO,2GOO,2MOO,2NOO,2NYOO,2U,2UN,2HU,2HUN",
   "2WU,2WUN,2PU,2BHU,2BU,2MBU,2KPU,2MGBU,2GBU,2FU,2VU,2TU,2THU,2DHU,2DHHU,2LU,2RU,2DU,2NDU,2SU",
   "2SHU,2ZU,2ZHU,2CU,2JU,2NJU,2YU,2KU,2NGGU,2GU,2MU,2NU,2NYU,2O,2ON,2NGON,2HO,2HON,2WO,2WON,2PO",
   "2BHO,2BO,2MBO,2KPO,2MGBO,2GBO,2GBON,2FO,2VO,2TO,2THO,2DHO,2DHHO,2LO,2RO,2DO,2NDO,2SO,2SHO,2ZO",
   "2ZHO,2CO,2JO,2NJO,2YO,2KO,2NGGO,2GO,2MO,2NO,2NYO,2E,2EN,2NGEN,2HE,2HEN,2WE,2WEN,2PE,2BHE,2BE",
   "2MBE,2KPE,2KPEN,2MGBE,2GBE,2GBEN,2FE,2VE,2TE,2THE,2DHE,2DHHE,2LE,2RE,2DE,2NDE,2SE,2SHE,2ZE",
   "2ZHE,2CE,2JE,2NJE,2YE,2KE,2NGGE,2NGGEN,2GE,2GEN,2ME,2NE,2NYE,2NG,2LENGTHENER,1ed,1hm fk,1en ah",
   "1hp NDOLE FA,3KA,3SOO,1y FEENG,2KEENG,2TING,2NII,2BANG,2FAA,2TAA,2DANG,2DOONG,2KUNG,2TONG",
   "2DO-O,2JONG,1bp dq,2bl,2bo,2s,2au,2ay,2et,2av,2ap,2ci,1hp NDOLE MA,3DO,=A640,0ho c a ZEMLYA",
   "1d a ZEMLYA,1c a DZELO,1d a DZELO,1c a as DZE,1d a as DZE,1c a lk,1d a lk,1c a DJERV",
   "1d a DJERV,1c a MONOGRAPH UK,1d a MONOGRAPH UK,1c a BROAD gw,1d a BROAD gw,1c a gm YER",
   "1d a gm YER,1c a YERU b BACK YER,1d a YERU b BACK YER,1c a ig YAT,1d a ig YAT,1c a as YU",
   "1d a as YU,1c a ig A,1d a ig A,1c a el dh YUS,1d a el dh YUS,1c a BLENDED YUS,1d a BLENDED YUS",
   "1c a ig el dh YUS,1d a ig el dh YUS,1c a YN,1d a YN,1c a as TSE,1d a as TSE,1c a SOFT DE",
   "1d a SOFT DE,1c a SOFT EL,1d a SOFT EL,1c a SOFT EM,1d a SOFT EM,1c a MONOCULAR O",
   "1d a MONOCULAR O,1c a BINOCULAR O,1d a BINOCULAR O,1c a m MONOCULAR O,1d a m MONOCULAR O",
   "1a MULTIOCULAR O,0ch ho VZMET,2iu MILLIONS h,2ac MILLIONS h,2ad MILLIONS h,0SLAVONIC cs",
   "0ch ho a UKRAINIAN IE,3I,3YI,3U,3HARD h,3YERU,3SOFT h,3gw,2KAVYKA,2PAYEROK,0ho KAVYKA,1PAYEROK",
   "1c a DWE,1d a DWE,1c a DZWE,1d a DZWE,1c a ZHWE,1d a ZHWE,1c a CCHE,1d a CCHE,1c a DZZE",
   "1d a DZZE,1c a TE b aa aw,1d a TE b aa aw,1c a TWE,1d a TWE,1c a TSWE,1d a TSWE,1c a TSSE",
   "1d a TSSE,1c a TCHE,1d a TCHE,1c a HWE,1d a HWE,1c a SHWE,1d a SHWE,1c a m O,1d a m O",
   "1c a li O,1d a li O,0ds a ho HARD h,3SOFT h,0ch ho a EF,3ig E,0BAMUM a A,2KA,2U,2KU,2EE,2REE",
   "2TAE,2O,2NYI,2I,2LA,2PA,2RII,2RIEE,2LEEEE,2MEEEE,2TAA,2NDAA,2NJAEM,2M,2SUU,2MU,2SHII,2SI",
   "2SHEUX,2SEUX,2KYEE,2KET,2NUAE,2NU,2NJUAE,2YOQ,2SHU,2YUQ,2YA,2NSHA,2KEUX,2PEUX,2NJEE,2NTEE,2PUE",
   "2WUE,2PEE,2FEE,2RU,2LU,2MI,2NI,2REUX,2RAE,2KEN,2NGKWAEN,2NGGA,2jd,2SHO,2PUAE,2FU,2FOM,2WA,2NA",
   "2LI,2PI,2LOQ,2KO,2MBEN,2REN,2MEN,2MA,2TI,2KI,2MO,2MBAA,2TET,2KPA,2iu,2NTUU,2SAMBA,2FAAMAE",
   "2KOVUU,2KOGHOM,1ch ah KOQNDON,3TUKWENTIS,1NJAEMLI,1hm fk,1ia,1ed,1ji,1en ah,=A700",
   "0ds a CHINESE ew YIN PING,4YANG PING,4YIN SHANG,4YANG SHANG,4YIN QU,4YANG QU,4YIN RU,4YANG RU",
   "2EXTRA-HIGH fh ew fe,2fb fh ew fe,2MID fh ew fe,2hw fh ew fe,2EXTRA-LOW fh ew fe",
   "2EXTRA-HIGH fh lb ew fe,2fb fh lb ew fe,2MID fh lb ew fe,2hw fh lb ew fe",
   "2EXTRA-LOW fh lb ew fe,2EXTRA-HIGH lb ew fe,2fb lb ew fe,2MID lb ew fe,2hw lb ew fe",
   "2EXTRA-LOW lb ew fe,2cg n fe,3SLASH,3t fe,2aq g fm fa,2he UP f,3cq f,3dd ah,3bc dd ah",
   "2hw bc dd ah,2STRESS p fb ew,4hw ew,0ez c a EGYPTOLOGICAL de,1d a EGYPTOLOGICAL de",
   "1c a EGYPTOLOGICAL AIN,1d a EGYPTOLOGICAL AIN,1c a HENG,1d a HENG,1c a TZ,1d a TZ",
   "1c a TRESILLO,1d a TRESILLO,1c a CUATRILLO,1d a CUATRILLO,1c a CUATRILLO b ed",
   "1d a CUATRILLO b ed,1a d c F,4S,1c a AA,1d a AA,1c a AO,1d a AO,1c a AU,1d a AU,1c a AV",
   "1d a AV,1c a AV b t fe,1d a AV b t fe,1c a AY,1d a AY,1c a as C b cg,1d a as C b cg,1c a K b v",
   "1d a K b v,1c a K b bu v,1d a K b bu v,1c a K b v p bu v,1d a K b v p bu v,1c a BROKEN L",
   "1d a BROKEN L,1c a L b fb v,1d a L b fb v,1c a O b eu v gr,1d a O b eu v gr,1c a O b LOOP",
   "1d a O b LOOP,1c a OO,1d a OO,1c a P b v kq cm,1d a P b v kq cm,1c a P b FLOURISH",
   "1d a P b FLOURISH,1c a P b SQUIRREL gy,1d a P b SQUIRREL gy,1c a Q b v kq cm,1d a Q b v kq cm",
   "1c a Q b bu v,1d a Q b bu v,1c a R ROTUNDA,1d a R ROTUNDA,1c a RUM ROTUNDA,1d a RUM ROTUNDA",
   "1c a V b bu v,1d a V b bu v,1c a VY,1d a VY,1c a VISIGOTHIC Z,1d a VISIGOTHIC Z,1c a THORN b v",
   "1d a THORN b v,1c a THORN b v kq cm,1d a THORN b v kq cm,1c a VEND,1d a VEND,1c a ET,1d a ET",
   "1c a IS,1d a IS,1c a CON,1d a CON,0ds a US,0ez d a DUM,3LUM,3MUM,3NUM,3RUM,1a d c RUM,1d a TUM",
   "3UM,1c a iq D,1d a iq D,1c a iq F,1d a iq F,1c a iq G,3bs iq G,1d a bs iq G,1c a bs L",
   "1d a bs L,1c a iq R,1d a iq R,1c a iq S,1d a iq S,1c a iq T,1d a iq T,0ds a hw af fd,2ia",
   "2ev fx h,0ez c a SALTILLO,1d a SALTILLO,1c a bs H,1d a L b cl aw p BELT,1a SINOLOGICAL cg",
   "1c a N b cm,1d a N b cm,1c a C b fe,1d a C b fe,5ft aw,3H b ft aw,1c a B b FLOURISH",
   "1d a B b FLOURISH,1c a F b v,1d a F b v,1c a VOLAPUK AE,1d a VOLAPUK AE,1c a VOLAPUK OE",
   "1d a VOLAPUK OE,1c a VOLAPUK UE,1d a VOLAPUK UE,1c a G b kc v,1d a G b kc v,1c a K b kc v",
   "1d a K b kc v,1c a N b kc v,1d a N b kc v,1c a R b kc v,1d a R b kc v,1c a S b kc v",
   "1d a S b kc v,1c a H b aw,3as dv E,3ic G,3L b BELT,3d c I,1a d c Q,1c a bs K,4T,3J b ja,3CHI",
   "3BETA,1d a BETA,1c a gw,1d a gw,1c a U b v,1d a U b v,1c a ga A,1d a ga A,1c a ga I,1d a ga I",
   "1c a ga U,1d a ga U,1c a OLD POLISH O,1d a OLD POLISH O,1c a ANGLICANA W,1d a ANGLICANA W",
   "1c a C b ft aw,3S b aw,3Z b ft aw,3D b ev v gr,1d a D b ev v gr,1c a S b ev v gr",
   "1d a S b ev v gr,1c a RAMS kf,3S b bu v,1d a S b bu v,=A7D0,1c a el iq G,1d a el iq G,=A7D3",
   "3m THORN,=A7D5,4WYNN,1c a aa SCOTS S,1d a aa SCOTS S,1c a SIGMOID S,1d a SIGMOID S,1c a LAMBDA",
   "1d a LAMBDA,1c a LAMBDA b v,=A7F2,0ds a c C,3F,3Q,0ez c a as bg H,1d a as bg H",
   "1EPIGRAPHIC a SIDEWAYS I,0ds a c H b v,2d dr OE,0ez a d c bs M,1EPIGRAPHIC a as F,4P,3bc M",
   "3I LONGA,3hz M,0SYLOTI NAGRI a A,3I,2h DVISVARA,2a U,3E,3O,2h HASANTA,2a KO,3KHO,3GO,3GHO",
   "2h bt,2a CO,3CHO,3JO,3JHO,3TTO,3TTHO,3DDO,3DDHO,3TO,3THO,3DO,3DHO,3NO,3PO,3PHO,3BO,3BHO,3MO",
   "3RO,3LO,3RRO,3SO,3HO,2bn h A,4I,4U,4E,4OO,2POETRY MARK-1,3MARK-2,3MARK-3,3MARK-4,2h ek HASANTA",
   "=A830,0fo INDIC hc bl by,4bg,3s gf,3bl fj,4hb,3s SIXTEENTHS,2by ah,2PLACEHOLDER ah,2RUPEE ah",
   "2QUANTITY ah,=A840,0PHAGS-PA a KA,2ka,2GA,2jd,2CA,2jy,2JA,2kb,2TA,2kp,2DA,2NA,2PA,2PHA,2BA,2MA",
   "2TSA,2TSHA,2DZA,2WA,2ZHA,2ZA,2d A,2YA,2RA,2LA,2je,2SA,2HA,2A,2I,2U,2E,2O,2QA,2XA,2FA,2GGA,2EE",
   "1SUBJOINED a WA,3YA,1a TTA,2ii,2DDA,2NNA,2ek YA,2VOICELESS je,2VOICED HA,2ASPIRATED FA",
   "1SUBJOINED a RA,1SUPERFIXED a RA,1a cp,1ck HEAD ah,1m HEAD ah,1ah SHAD,2m SHAD,=A880",
   "0SAURASHTRA h bt,2dw,1a A,2AA,2I,2II,2U,2UU,2bz R,3RR,3L,3LL,2E,2EE,2AI,2O,2OO,2AU,2KA,2ka,2GA",
   "2GHA,2jd,2CA,2jy,2JA,2JHA,2kb,2TTA,2ii,2DDA,2io,2NNA,2TA,2kp,2DA,2DHA,2NA,2PA,2PHA,2BA,2BHA",
   "2MA,2YA,2RA,2LA,2VA,2je,2SSA,2SA,2HA,2LLA,1eb h HAARU,1bn h AA,3I,3II,3U,3UU,3bz R,4RR,4L,4LL",
   "3E,3EE,3AI,3O,3OO,3AU,1h ej,2cp,=A8CE,1hh,1m hh,1bp dq,2bl,2bo,2s,2au,2ay,2et,2av,2ap,2ci",
   "=A8E0,0ch DEVANAGARI bp dq,3bl,3bo,3s,3au,3ay,3et,3av,3ap,3ci,2a A,3U,3KA,3NA,3PA,3RA,3VI",
   "2h ht,0DEVANAGARI h SPACING cp,2cp ej,2m cp ej,2cp bo,3s,3ht,2PUSHPIKA,1GAP FILLER,1CARET",
   "1HEADSTROKE,1h SIDDHAM,1JAIN OM,1a AY,1bn h AY,0KAYAH LI bp dq,3bl,3bo,3s,3au,3ay,3et,3av,3ap",
   "3ci,2a KA,3ka,3GA,3jd,3SA,3je,3ZA,3kb,3TA,3HTA,3NA,3PA,3PHA,3MA,3DA,3BA,3RA,3YA,3LA,3WA,3kp",
   "3HA,3VA,3CA,3A,3OE,3I,3OO,2bn UE,3E,3U,3EE,3O,2ew PLOPHU,3CALYA,4PLOPHU,2h CWI,3SHYA",
   "0REJANG a KA,2GA,2jd,2TA,2DA,2NA,2PA,2BA,2MA,2CA,2JA,2kb,2SA,2RA,2LA,2YA,2WA,2HA,2MBA,2NGGA",
   "2NDA,2NYJA,2A,1bn h I,3U,3E,3AI,3O,3AU,3EU,3EA,1eb h NG,3N,3R,3H,1ej,=A95F,1fl ah",
   "0HANGUL CHOSEONG TIKEUT-MIEUM,2TIKEUT-PIEUP,2TIKEUT-SIOS,2TIKEUT-CIEUC,2RIEUL-KIYEOK",
   "2RIEUL-SSANGKIYEOK,2RIEUL-TIKEUT,2RIEUL-SSANGTIKEUT,2RIEUL-MIEUM,2RIEUL-PIEUP",
   "2RIEUL-SSANGPIEUP,2RIEUL-KAPYEOUNPIEUP,2RIEUL-SIOS,2RIEUL-CIEUC,2RIEUL-KHIEUKH,2MIEUM-KIYEOK",
   "2MIEUM-TIKEUT,2MIEUM-SIOS,2PIEUP-SIOS-THIEUTH,2PIEUP-KHIEUKH,2PIEUP-HIEUH,2SSANGSIOS-PIEUP",
   "2IEUNG-RIEUL,2IEUNG-HIEUH,2SSANGCIEUC-HIEUH,2SSANGTHIEUTH,2PHIEUPH-HIEUH,2HIEUH-SIOS",
   "2SSANGYEORINHIEUH,=A980,0JAVANESE h PANYANGGA,2CECAK,2LAYAR,2WIGNYAN,1a A,2I KAWI,3,2II,2U",
   "2PA CEREK,2jd LELET,4RASWADI,2E,2AI,2O,2KA,3SASAK,3MURDA,2GA,3MURDA,2jd,2CA,3MURDA,2JA",
   "2kb MURDA,2JA MAHAPRANA,2kb,2TTA,3MAHAPRANA,2DDA,3MAHAPRANA,2NA MURDA,2TA,3MURDA,2DA",
   "3MAHAPRANA,2NA,2PA,3MURDA,2BA,3MURDA,2MA,2YA,2RA,3AGUNG,2LA,2WA,2SA MURDA,3MAHAPRANA,3,2HA",
   "1h CECAK TELU,1bn h TARUNG,3TOLONG,3WULU,4MELIK,3SUKU,4MENDUT,3TALING,3DIRGA MURE,3PEPET",
   "1eb h KERET,3PENGKAL,3CAKRA,1PANGKON,1l RERENGGAN,1g RERENGGAN,1PADA ANDAP,2MADYA,2LUHUR",
   "2WINDU,2PANGKAT,2LINGSA,2LUNGSI,2ADEG,3ADEG,2PISELEH,1bs PADA PISELEH,=A9CF,1PANGRANGKEP",
   "1bp dq,2bl,2bo,2s,2au,2ay,2et,2av,2ap,2ci,=A9DE,1PADA TIRTA TUMETES,2ISEN-ISEN",
   "0MYANMAR a SHAN GHA,3jy,3JHA,3NNA,3BHA,1h SHAN SAW,1ds a SHAN REDUPLICATION,1a TAI LAING kb",
   "4FA,4GA,4GHA,4JA,4JHA,4DDA,4io,4NNA,1TAI LAING bp dq,4bl,4bo,4s,4au,4ay,4et,4av,4ap,4ci",
   "1a TAI LAING LLA,4DA,4DHA,4BA,4BHA,=AA00,0CHAM a A,2I,2U,2E,2AI,2O,2KA,2ka,2GA,2GHA,2NGUE,2jd",
   "2jy,2CHHA,2JA,2JHA,2NHUE,2NHA,2NHJA,2TA,2kp,2DA,2DHA,2NUE,2NA,2DDA,2PA,2PPA,2PHA,2BA,2BHA,2MUE",
   "2MA,2BBA,2YA,2RA,2LA,2VA,2SSA,2SA,2HA,1bn h AA,3I,3II,3EI,3U,3OE,3O,3AI,3AU,3UE,1eb h YA,3RA",
   "3LA,3WA,=AA40,1a q K,3G,3NG,1eb h q NG,1a q CH,3T,3N,3P,3Y,3R,3L,3SS,1eb h q M,4H,=AA50,1bp dq",
   "2bl,2bo,2s,2au,2ay,2et,2av,2ap,2ci,=AA5C,1be SPIRAL,2hh,2m hh,2dt hh,0MYANMAR a KHAMTI GA,3CA",
   "3jy,3JA,3JHA,3kb,3TTA,3ii,3DDA,3io,3DHA,3NA,3SA,3HA,3HHA,3FA,1ds a KHAMTI REDUPLICATION",
   "1a KHAMTI XA,3ZA,3RA,1LOGOGRAM KHAMTI OAY,3QN,3HM,1y AITON dd,3bl,3bo,1a AITON RA",
   "1h PAO KAREN ew,2TAI LAING TONE-2,4TONE-5,1a SHWE PALAUNG jy,4je,0TAI VIET a hw KO,3fb KO",
   "3hw KHO,3fb KHO,3hw KHHO,3fb KHHO,3hw GO,3fb GO,3hw NGO,3fb NGO,3hw CO,3fb CO,3hw CHO,3fb CHO",
   "3hw SO,3fb SO,3hw NYO,3fb NYO,3hw DO,3fb DO,3hw TO,3fb TO,3hw THO,3fb THO,3hw NO,3fb NO,3hw BO",
   "3fb BO,3hw PO,3fb PO,3hw PHO,3fb PHO,3hw FO,3fb FO,3hw MO,3fb MO,3hw YO,3fb YO,3hw RO,3fb RO",
   "3hw LO,3fb LO,3hw VO,3fb VO,3hw HO,3fb HO,3hw O,3fb O,2MAI KANG,2bn AA,3I,3UE,3U,3E,3O",
   "2MAI KHIT,2bn IA,3UEA,3UA,3AUE,3AY,3AN,3AM,2ew MAI EK,4NUENG,4THO,4SONG,=AADB,2y KON,3NUENG",
   "3SAM,3HO HOI,3KOI KOI,0MEETEI MAYEK a E,3O,3jy,3kb,3TTA,3ii,3DDA,3io,3NNA,3je,3SSA,2bn h II",
   "4UU,4AAI,4AU,4AAU,2CHEIKHAN,2AHANG KHUDAM,2ANJI,2hp REPETITION ah,2WORD REPETITION ah,2bn h dw",
   "2ej,=AB01,0ETHIOPIC hp TTHU,2TTHI,2TTHAA,2TTHEE,2TTHE,2TTHO,=AB09,2DDHU,2DDHI,2DDHAA,2DDHEE",
   "2DDHE,2DDHO,=AB11,2DZU,2DZI,2DZAA,2DZEE,2DZE,2DZO,=AB20,2CCHHA,2CCHHU,2CCHHI,2CCHHAA,2CCHHEE",
   "2CCHHE,2CCHHO,=AB28,2BBA,2BBU,2BBI,2BBAA,2BBEE,2BBE,2BBO,=AB30,0ez d a BARRED hs",
   "3A REVERSED-SCHWA,3BLACKLETTER E,3BARRED E,3E b FLOURISH,3LENIS F,3ic G b ja,3L b bc LAZY S",
   "5m aa cd,5aa do,3M b ja,3N b ja,3ENG b ja,3BLACKLETTER O,5b v,3dv O b v,3bc OE,3bs OE b v,6t v",
   "4O OPEN-O,6b v,3STIRRUP R,1a d c R b g LEG,1d a R WITHOUT HANDLE,3m R,3R b ja,3m R b ja,3ic R",
   "5b do,3BASELINE ESH,3U b ev g LEG,4fe b ev g LEG,3UI,3bs UI,3U b l aw,3CHI,4b hw g do,6l SERIF",
   "3X b hw g do,5eu l LEG,8p hw g do,8b SERIF,3Y b ev g LEG,0ds ep b bc ep,1a d HENG",
   "3L b bc LAZY S,5aa cd,3U b l aw,0ez d a SAKHA YAT,3ig E,3dv OE,3UO,3bc hs,0jq a d c gw",
   "0ez d a DZ fz b cl aw,3TS fz b cl aw,3bs R b aa cd,0ds a d bs W,2l kn,2g kn,=AB70",
   "0CHEROKEE d a A,3E,3I,3O,3U,3V,3GA,3KA,3GE,3GI,3GO,3GU,3GV,3HA,3HE,3HI,3HO,3HU,3HV,3LA,3LE,3LI",
   "3LO,3LU,3LV,3MA,3ME,3MI,3MO,3MU,3NA,3HNA,3NAH,3NE,3NI,3NO,3NU,3NV,3QUA,3QUE,3QUI,3QUO,3QUU",
   "3QUV,3SA,3S,3SE,3SI,3SO,3SU,3SV,3DA,3TA,3DE,3TE,3DI,3TI,3DO,3DU,3DV,3DLA,3TLA,3TLE,3TLI,3TLO",
   "3TLU,3TLV,3TSA,3TSE,3TSI,3TSO,3TSU,3TSV,3WA,3WE,3WI,3WO,3WU,3WV,3YA,0MEETEI MAYEK a KOK,3SAM",
   "3LAI,3MIT,3PA,3NA,3CHIL,3TIL,3KHOU,3NGOU,3THOU,3WAI,3YANG,3HUK,3UN,3I,3PHAM,3ATIYA,3GOK,3JHAM",
   "3RAI,3BA,3JIL,3DIL,3GHOU,3DHOU,3BHAM,3KOK LONSUM,3LAI LONSUM,3MIT LONSUM,3PA LONSUM,3NA LONSUM",
   "3TIL LONSUM,3NGOU LONSUM,3I LONSUM,2bn h ONAP,4INAP,4ANAP,4YENAP,4SOUNAP,4UNAP,4CHEINAP,4NUNG",
   "2CHEIKHEI,2LUM IYEK,2APUN IYEK,=ABF0,2bp dq,3bl,3bo,3s,3au,3ay,3et,3av,3ap,3ci,=D7B0",
   "0HANGUL JUNGSEONG O-YEO,2O-O-I,2YO-A,2YO-AE,2YO-EO,2U-YEO,2U-I-I,2YU-AE,2YU-O,2EU-A,2EU-EO",
   "2EU-E,2EU-O,2I-YA-O,2I-YAE,2I-YEO,2I-YE,2I-O-I,2I-YO,2I-YU,2I-I,2ARAEA-A,2ARAEA-E,=D7CB",
   "1JONGSEONG NIEUN-RIEUL,2NIEUN-CHIEUCH,2SSANGTIKEUT,2SSANGTIKEUT-PIEUP,2TIKEUT-PIEUP",
   "2TIKEUT-SIOS,2TIKEUT-SIOS-KIYEOK,2TIKEUT-CIEUC,2TIKEUT-CHIEUCH,2TIKEUT-THIEUTH",
   "2RIEUL-SSANGKIYEOK,2RIEUL-KIYEOK-HIEUH,2SSANGRIEUL-KHIEUKH,2RIEUL-MIEUM-HIEUH",
   "2RIEUL-PIEUP-TIKEUT,2RIEUL-PIEUP-PHIEUPH,2RIEUL-YESIEUNG,2RIEUL-YEORINHIEUH-HIEUH",
   "2KAPYEOUNRIEUL,2MIEUM-NIEUN,2MIEUM-SSANGNIEUN,2SSANGMIEUM,2MIEUM-PIEUP-SIOS,2MIEUM-CIEUC",
   "2PIEUP-TIKEUT,2PIEUP-RIEUL-PHIEUPH,2PIEUP-MIEUM,2SSANGPIEUP,2PIEUP-SIOS-TIKEUT,2PIEUP-CIEUC",
   "2PIEUP-CHIEUCH,2SIOS-MIEUM,2SIOS-KAPYEOUNPIEUP,2SSANGSIOS-KIYEOK,2SSANGSIOS-TIKEUT",
   "2SIOS-PANSIOS,2SIOS-CIEUC,2SIOS-CHIEUCH,2SIOS-THIEUTH,2SIOS-HIEUH,2PANSIOS-PIEUP",
   "2PANSIOS-KAPYEOUNPIEUP,2YESIEUNG-MIEUM,2YESIEUNG-HIEUH,2CIEUC-PIEUP,2CIEUC-SSANGPIEUP",
   "2SSANGCIEUC,2PHIEUPH-SIOS,2PHIEUPH-THIEUTH"]

/-- Forms of letters for presentation, and of other widths. -/
def formNames : List String :=
  ["=FB00,0ez d dr FF,3FI,3FL,3FFI,3FFL,3eu S T,3ST,=FB13,0ARMENIAN d dr MEN NOW,4ECH,4INI",
   "3VEW NOW,3MEN XEH,=FB1D,0HEBREW a YOD b HIRIQ,1POINT JUDEO-SPANISH VARIKA",
   "1dr YIDDISH YOD YOD PATAH,1a ALTERNATIVE AYIN,2WIDE de,3DALET,3HE,3KAF,3LAMED,3q MEM,3RESH",
   "3TAV,2ALTERNATIVE cj h,2SHIN b SHIN cg,4SIN cg,4ik p SHIN cg,6SIN cg,2de b PATAH,4QAMATS",
   "4MAPIQ,2BET b ik,2GIMEL b ik,2DALET b ik,2HE b MAPIQ,2VAV b ik,2ZAYIN b ik,=FB38,2TET b ik",
   "2YOD b ik,2q KAF b ik,2KAF b ik,2LAMED b ik,=FB3E,2MEM b ik,=FB40,2NUN b ik,2SAMEKH b ik,=FB43",
   "2q PE b ik,2PE b ik,=FB46,2TSADI b ik,2QOF b ik,2RESH b ik,2SHIN b ik,2TAV b ik,2VAV b HOLAM",
   "2BET b RAFE,2KAF b RAFE,2PE b RAFE,1dr de LAMED,0ix a de WASLA j e,4q e,2BEEH j e,3q e,3u e",
   "3bk e,2PEH j e,3q e,3u e,3bk e,2BEHEH j e,3q e,3u e,3bk e,2TTEHEH j e,3q e,3u e,3bk e",
   "2TEHEH j e,3q e,3u e,3bk e,2TTEH j e,3q e,3u e,3bk e,2VEH j e,3q e,3u e,3bk e,2PEHEH j e,3q e",
   "3u e,3bk e,2DYEH j e,3q e,3u e,3bk e,2NYEH j e,3q e,3u e,3bk e,2TCHEH j e,3q e,3u e,3bk e",
   "2TCHEHEH j e,3q e,3u e,3bk e,2DDAHAL j e,3q e,2DAHAL j e,3q e,2DUL j e,3q e,2DDAL j e,3q e",
   "2JEH j e,3q e,2RREH j e,3q e,2KEHEH j e,3q e,3u e,3bk e,2GAF j e,3q e,3u e,3bk e,2GUEH j e",
   "3q e,3u e,3bk e,2NGOEH j e,3q e,3u e,3bk e,2jl GHUNNA j e,4q e,2RNOON j e,3q e,3u e,3bk e",
   "2HEH b gp i j e,6q e,3GOAL j e,4q e,4u e,4bk e,3DOACHASHMEE j e,4q e,4u e,4bk e,2gp BARREE j e",
   "4q e,4b hi i j e,7q e,1y cg i,3o,2bo cy i,4o,2s cy i,4o,4bf ab i,6o,2au cy i,4o,2m n fe o",
   "2bo cy jx i,5o,2do,2d TAH i,4o,2WASLA i,=FBD3,1a NG j e,3q e,3u e,3bk e,2U j e,3q e,2OE j e",
   "3q e,2YU j e,3q e,2U b hi i j e,2VE j e,3q e,2KIRGHIZ OE j e,4q e,3YU j e,4q e,2E j e,3q e",
   "3u e,3bk e,2UIGHUR KAZAKH KIRGHIZ de br u e,7bk e,1dr gp b hi i b de j e,8q e,7AE j e,8q e",
   "7WAW j e,8q e,7U j e,8q e,7OE j e,8q e,7YU j e,8q e,7E j e,8q e,8u e",
   "2UIGHUR KIRGHIZ gp b hi i b de br j e,9de br q e,9de br u e,1a FARSI gp j e,4q e,4u e,4bk e",
   "1dr gp b hi i b es j e,7if j e,7cf j e,7de br j e,7gp j e,2BEH b es j e,4if j e,4hg j e",
   "4cf j e,4de br j e,4gp j e,2TEH b es j e,4if j e,4hg j e,4cf j e,4de br j e,4gp j e",
   "2THEH b es j e,4cf j e,4de br j e,4gp j e,2es b if j e,4cf j e,2if b es j e,4cf j e",
   "2hg b es j e,4if j e,4cf j e,2SEEN b es j e,4if j e,4hg j e,4cf j e,2SAD b if j e,4cf j e",
   "2DAD b es j e,4if j e,4hg j e,4cf j e,2TAH b if j e,4cf j e,2ZAH b cf j e,2AIN b es j e",
   "4cf j e,2GHAIN b es j e,4cf j e,2FEH b es j e,4if j e,4hg j e,4cf j e,4de br j e,4gp j e",
   "2QAF b if j e,4cf j e,4de br j e,4gp j e,2KAF b de j e,4es j e,4if j e,4hg j e,4LAM j e",
   "4cf j e,4de br j e,4gp j e,2LAM b es j e,4if j e,4hg j e,4cf j e,4de br j e,4gp j e",
   "2cf b es j e,4if j e,4hg j e,4cf j e,4de br j e,4gp j e,2jl b es j e,4if j e,4hg j e,4cf j e",
   "4de br j e,4gp j e,2HEH b es j e,4cf j e,4de br j e,4gp j e,2gp b es j e,4if j e,4hg j e",
   "4cf j e,4de br j e,4gp j e,2THAL b hf de j e,2REH b hf de j e,2de br b hf de j e",
   "2SHADDA b DAMMATAN j e,4KASRATAN j e,4FATHA j e,4DAMMA j e,4KASRA j e,4hf de j e",
   "2gp b hi i b REH q e,7ZAIN q e,7cf q e,7jl q e,7de br q e,7gp q e,2BEH b REH q e,4ZAIN q e",
   "4cf q e,4jl q e,4de br q e,4gp q e,2TEH b REH q e,4ZAIN q e,4cf q e,4jl q e,4de br q e,4gp q e",
   "2THEH b REH q e,4ZAIN q e,4cf q e,4jl q e,4de br q e,4gp q e,2FEH b de br q e,4gp q e",
   "2QAF b de br q e,4gp q e,2KAF b de q e,4LAM q e,4cf q e,4de br q e,4gp q e,2LAM b cf q e",
   "4de br q e,4gp q e,2cf b de q e,4cf q e,2jl b REH q e,4ZAIN q e,4cf q e,4jl q e,4de br q e",
   "4gp q e,2de br b hf de q e,2gp b REH q e,4ZAIN q e,4cf q e,4jl q e,4de br q e,4gp q e",
   "4hi i b es u e,7if u e,7hg u e,7cf u e,7HEH u e,2BEH b es u e,4if u e,4hg u e,4cf u e,4HEH u e",
   "2TEH b es u e,4if u e,4hg u e,4cf u e,4HEH u e,2THEH b cf u e,2es b if u e,4cf u e",
   "2if b es u e,4cf u e,2hg b es u e,4cf u e,2SEEN b es u e,4if u e,4hg u e,4cf u e,2SAD b if u e",
   "4hg u e,4cf u e,2DAD b es u e,4if u e,4hg u e,4cf u e,2TAH b if u e,2ZAH b cf u e",
   "2AIN b es u e,4cf u e,2GHAIN b es u e,4cf u e,2FEH b es u e,4if u e,4hg u e,4cf u e",
   "2QAF b if u e,4cf u e,2KAF b es u e,4if u e,4hg u e,4LAM u e,4cf u e,2LAM b es u e,4if u e",
   "4hg u e,4cf u e,4HEH u e,2cf b es u e,4if u e,4hg u e,4cf u e,2jl b es u e,4if u e,4hg u e",
   "4cf u e,4HEH u e,2HEH b es u e,4cf u e,4hf de u e,2gp b es u e,4if u e,4hg u e,4cf u e",
   "4HEH u e,4hi i b cf bk e,7HEH bk e,2BEH b cf bk e,4HEH bk e,2TEH b cf bk e,4HEH bk e",
   "2THEH b cf bk e,4HEH bk e,2SEEN b cf bk e,4HEH bk e,2SHEEN b cf bk e,4HEH bk e,2KAF b LAM bk e",
   "4cf bk e,2LAM b cf bk e,2jl b cf bk e,4HEH bk e,2gp b cf bk e,4HEH bk e,2SHADDA b FATHA bk e",
   "4DAMMA bk e,4KASRA bk e,2TAH b de br j e,4gp j e,2AIN b de br j e,4gp j e,2GHAIN b de br j e",
   "4gp j e,2SEEN b de br j e,4gp j e,2SHEEN b de br j e,4gp j e,2if b de br j e,4gp j e",
   "2es b de br j e,4gp j e,2hg b de br j e,4gp j e,2SAD b de br j e,4gp j e,2DAD b de br j e",
   "4gp j e,2SHEEN b es j e,4if j e,4hg j e,4cf j e,4REH j e,2SEEN b REH j e,2SAD b REH j e",
   "2DAD b REH j e,2TAH b de br q e,4gp q e,2AIN b de br q e,4gp q e,2GHAIN b de br q e,4gp q e",
   "2SEEN b de br q e,4gp q e,2SHEEN b de br q e,4gp q e,2if b de br q e,4gp q e,2es b de br q e",
   "4gp q e,2hg b de br q e,4gp q e,2SAD b de br q e,4gp q e,2DAD b de br q e,4gp q e",
   "2SHEEN b es q e,4if q e,4hg q e,4cf q e,4REH q e,2SEEN b REH q e,2SAD b REH q e,2DAD b REH q e",
   "2SHEEN b es u e,4if u e,4hg u e,4cf u e,2SEEN b HEH u e,2SHEEN b HEH u e,2TAH b cf u e",
   "2SEEN b es bk e,4if bk e,4hg bk e,2SHEEN b es bk e,4if bk e,4hg bk e,2TAH b cf bk e",
   "2ZAH b cf bk e,2de b FATHATAN q e,5j e,0ORNATE l bj,1g bj,0ix dr RAHIMAHU ALLAAH",
   "2RADI ALLAAHU ANH,4ANHAA,4ANHUM,4ANHUMAA,4ANHUNNA,2SALLALLAAHU ALAYHI WA-AALIH",
   "2ALAYHI AS-SALAAM,2ALAYHIM AS-SALAAM,2ALAYHIMAA AS-SALAAM,2ALAYHI AS-SALAATU WAS-SALAAM",
   "2QUDDISA SIRRAH,2SALLALLAHU ALAYHI WAAALIHEE WA-SALLAM,2ALAYHAA AS-SALAAM",
   "2TABAARAKA WA-TAAALAA,2RAHIMAHUM ALLAAH,2TEH b es b cf u e,4if b es q e,7u e,6cf u e",
   "4hg b cf u e,4cf b es u e,6if u e,6hg u e,2es b cf b if q e,7u e,2if b cf b gp q e,6de br q e",
   "2SEEN b if b es u e,4es b if u e,6de br q e,4cf b if q e,7u e,6es u e,6cf q e,7u e",
   "2SAD b if b if q e,7u e,4cf b cf q e,2SHEEN b if b cf q e,7u e,4es b gp q e,4cf b hg q e,7u e",
   "6cf q e,7u e,2DAD b if b de br q e,4hg b cf q e,7u e,2TAH b cf b if q e,7u e,6cf u e,6gp q e",
   "2AIN b es b cf q e,4cf b cf q e,7u e,6de br q e,2GHAIN b cf b cf q e,6gp q e,6de br q e",
   "2FEH b hg b cf q e,7u e,2QAF b cf b if q e,6cf q e,2LAM b if b cf q e,6gp q e,6de br q e",
   "4es b es u e,7q e,4hg b cf q e,7u e,4cf b if q e,7u e,2cf b if b es u e,6cf u e,6gp q e",
   "4es b if u e,6cf u e,4hg b es u e,6cf u e,=FD92,4es b hg u e,2HEH b cf b es u e,6cf u e",
   "2jl b if b cf u e,6de br q e,4es b cf q e,7u e,6de br q e,4cf b gp q e,6de br q e",
   "2gp b cf b cf q e,7u e,2BEH b hg b gp q e,2TEH b es b gp q e,6de br q e,4hg b gp q e",
   "6de br q e,4cf b gp q e,6de br q e,2es b cf b gp q e,4if b de br q e,4cf b de br q e",
   "2SEEN b hg b de br q e,2SAD b if b gp q e,2SHEEN b if b gp q e,2DAD b if b gp q e",
   "2LAM b es b gp q e,4cf b gp q e,2gp b if b gp q e,4es b gp q e,4cf b gp q e,2cf b cf b gp q e",
   "2QAF b cf b gp q e,2jl b if b gp q e,2QAF b cf b if u e,2LAM b if b cf u e,2AIN b cf b gp q e",
   "2KAF b cf b gp q e,2jl b es b if u e,2cf b hg b gp q e,2LAM b es b cf u e,2KAF b cf b cf q e",
   "2LAM b es b cf q e,2jl b es b if q e,2es b if b gp q e,2if b es b gp q e,2cf b es b gp q e",
   "2FEH b cf b gp q e,2BEH b if b gp q e,2KAF b cf b cf u e,2AIN b es b cf u e,2SAD b cf b cf u e",
   "2SEEN b hg b gp q e,2jl b es b gp q e,=FDCF,2SALAAMUHU ALAYNAA,=FDF0",
   "2SALLA USED AS KORANIC fk h j e,2QALA USED AS KORANIC fk h j e,2ALLAH j e,2AKBAR j e",
   "2MOHAMMAD j e,2SALAM j e,2RASOUL j e,2ALAYHE j e,2WASALLAM j e,2SALLA j e",
   "2SALLALLAHOU ALAYHE WASALLAM,2JALLAJALALOUHOU,0RIAL h,0ix dr BISMILLAH AR-RAHMAN AR-RAHEEM",
   "2SUBHAANAHU WA TAAALAA,2AZZA WA JALL,0VARIATION SELECTOR-1,1SELECTOR-2,1SELECTOR-3,1SELECTOR-4",
   "1SELECTOR-5,1SELECTOR-6,1SELECTOR-7,1SELECTOR-8,1SELECTOR-9,1SELECTOR-10,1SELECTOR-11",
   "1SELECTOR-12,1SELECTOR-13,1SELECTOR-14,1SELECTOR-15,1SELECTOR-16,0PRESENTATION e FOR n ed",
   "4gb ed,5hm fk,4ia,4ji,4dd ah,4en ah,4l z kw ae,4g z kw BRAKCET,4t ELLIPSIS,=FE20,0ch dr l bg",
   "2g bg,1m cd l bg,3g bg,1cw l bg,2g bg,1CONJOINING cw,1dr l bg o,2g bg o,1cd l bg o,2g bg o",
   "1cw l bg o,2g bg o,1CONJOINING cw o,1ho TITLO l bg,3g bg,0PRESENTATION e FOR n bo cg LEADER",
   "4EM in,4EN in,4hw em,4WAVY hw em,4l bj,4g bj,4l jm ae,4g jm ae,4l hq ke ae,4g hq ke ae",
   "4l x kw ae,4g x kw ae,4l m fa ae,4g m fa ae,4l fa ae,4g fa ae,4l fm ae,4g fm ae,4l z fm ae",
   "4g z fm ae,0SESAME cg,0z SESAME cg,0PRESENTATION e FOR n l al ae,4g al ae,0DASHED OVERLINE",
   "0CENTRELINE OVERLINE,0WAVY OVERLINE,0m WAVY OVERLINE,0DASHED hw em,0CENTRELINE hw em",
   "0WAVY hw em,0d ed,1gb ed,1hm fk,=FE54,1ji,1ia,1en ah,1dd ah,1EM in,1l bj,1g bj,1l jm ae",
   "1g jm ae,1l hq ke ae,1g hq ke ae,1cx h,1AMPERSAND,1cs,1cj h,1HYPHEN-MINUS,1az h,1ak h,1fx h",
   "=FE68,1hj gs,1DOLLAR h,1PERCENT h,1COMMERCIAL AT,=FE70,0ix FATHATAN j e,1TATWEEL b FATHATAN i",
   "1DAMMATAN j e,1gy FRAGMENT,1KASRATAN j e,=FE76,1FATHA j e,2bk e,1DAMMA j e,2bk e,1KASRA j e",
   "2bk e,1SHADDA j e,2bk e,1SUKUN j e,2bk e,1a hi j e,2de b MADDA i j e,6q e,4hi i j e,6q e",
   "2WAW b hi i j e,6q e,2de b hi o j e,6q e,2gp b hi i j e,6q e,6u e,6bk e,2de j e,3q e,2BEH j e",
   "3q e,3u e,3bk e,2TEH MARBUTA j e,4q e,3j e,3q e,3u e,3bk e,2THEH j e,3q e,3u e,3bk e,2es j e",
   "3q e,3u e,3bk e,2if j e,3q e,3u e,3bk e,2hg j e,3q e,3u e,3bk e,2DAL j e,3q e,2THAL j e,3q e",
   "2REH j e,3q e,2ZAIN j e,3q e,2SEEN j e,3q e,3u e,3bk e,2SHEEN j e,3q e,3u e,3bk e,2SAD j e",
   "3q e,3u e,3bk e,2DAD j e,3q e,3u e,3bk e,2TAH j e,3q e,3u e,3bk e,2ZAH j e,3q e,3u e,3bk e",
   "2AIN j e,3q e,3u e,3bk e,2GHAIN j e,3q e,3u e,3bk e,2FEH j e,3q e,3u e,3bk e,2QAF j e,3q e",
   "3u e,3bk e,2KAF j e,3q e,3u e,3bk e,2LAM j e,3q e,3u e,3bk e,2cf j e,3q e,3u e,3bk e,2jl j e",
   "3q e,3u e,3bk e,2HEH j e,3q e,3u e,3bk e,2WAW j e,3q e,2de br j e,4q e,2gp j e,3q e,3u e,3bk e",
   "1dr LAM b de b MADDA i j e,8q e,6hi i j e,8q e,7o j e,8q e,5j e,5q e,=FEFF",
   "0dq WIDTH NO-BREAK km,=FF01,0FULLWIDTH dd ah,1dn ah,1cx h,1DOLLAR h,1PERCENT h,1AMPERSAND,1ks",
   "1l bj,1g bj,1cs,1cj h,1ed,1HYPHEN-MINUS,1hm fk,1gs,1bp dq,2bl,2bo,2s,2au,2ay,2et,2av,2ap,2ci",
   "1ia,1ji,1az h,1fx h,1ak h,1en ah,1COMMERCIAL AT,1ez c a A,4B,4C,4D,4E,4F,4G,4H,4I,4J,4K,4L,4M",
   "4N,4O,4P,4Q,4R,4S,4T,4U,4V,4W,4X,4Y,4Z,1l al ae,1hj gs,1g al ae,1af fd,1hw em,1dl fd,1ez d a A",
   "4B,4C,4D,4E,4F,4G,4H,4I,4J,4K,4L,4M,4N,4O,4P,4Q,4R,4S,4T,4U,4V,4W,4X,4Y,4Z,1l jm ae,1n em",
   "1g jm ae,1cd,1l z bj,1g z bj,0HALFWIDTH gb hm fk,1l fm ae,1g fm ae,1gb ed,1ll aa cg,2a WO,3d A",
   "4I,4U,4E,4O,4YA,4YU,4YO,4TU,1lm PROLONGED SOUND ah,1ll a A,3I,3U,3E,3O,3KA,3KI,3KU,3KE,3KO,3SA",
   "3SI,3SU,3SE,3SO,3TA,3TI,3TU,3TE,3TO,3NA,3NI,3NU,3NE,3NO,3HA,3HI,3HU,3HE,3HO,3MA,3MI,3MU,3ME",
   "3MO,3YA,3YU,3YO,3RA,3RI,3RU,3RE,3RO,3WA,3N,2VOICED SOUND ah,2SEMI-VOICED SOUND ah",
   "1HANGUL FILLER,2a KIYEOK,3SSANGKIYEOK,3KIYEOK-SIOS,3NIEUN,3NIEUN-CIEUC,3NIEUN-HIEUH,3TIKEUT",
   "3SSANGTIKEUT,3RIEUL,3RIEUL-KIYEOK,3RIEUL-MIEUM,3RIEUL-PIEUP,3RIEUL-SIOS,3RIEUL-THIEUTH",
   "3RIEUL-PHIEUPH,3RIEUL-HIEUH,3MIEUM,3PIEUP,3SSANGPIEUP,3PIEUP-SIOS,3SIOS,3SSANGSIOS,3IEUNG",
   "3CIEUC,3SSANGCIEUC,3CHIEUCH,3KHIEUKH,3THIEUTH,3PHIEUPH,3HIEUH,=FFC2,3A,3AE,3YA,3YAE,3EO,3E",
   "=FFCA,3YEO,3YE,3O,3WA,3WAE,3OE,=FFD2,3YO,3U,3WEO,3WE,3WI,3YU,=FFDA,3EU,3YI,3I,=FFE0",
   "0FULLWIDTH CENT h,1POUND h,1NOT h,1cw,1BROKEN fe,1YEN h,1WON h,=FFE8,0HALFWIDTH FORMS bq n",
   "1r f,1ar f,1k f,1ab f,1x al,1z ai,=FFF9,0INTERLINEAR ANNOTATION ANCHOR,2dj,2TERMINATOR",
   "0OBJECT REPLACEMENT gt,0REPLACEMENT gt"]

end TaintFlow.CharacterName
