/-!
# Names of letters

Names in the order of their characters. An entry starts with the number of words that its name has
in common with the name before, and goes on with the other words; `=` gives, in hexadecimal digits,
the character of the entry after it, and without it comes the next character. A word in small letters
stands for one of the common words.
-/

namespace TaintFlow.CharacterName

/-- The letters of Europe and the Near East. -/
def europeanNames : List String :=
  ["=20,0km,0dd ah,0dn ah,0cx h,0DOLLAR h,0PERCENT h,0AMPERSAND,0ks,0l bj,0g bj,0cs,0cj h,0ed",
   "0HYPHEN-MINUS,0hm fk,0gs,0bp dq,1bl,1bo,1s,1au,1ay,1et,1av,1ap,1ci,0ia,0ji,0az h,0fx h,0ak h",
   "0en ah,0COMMERCIAL AT,0ez c a A,3B,3C,3D,3E,3F,3G,3H,3I,3J,3K,3L,3M,3N,3O,3P,3Q,3R,3S,3T,3U,3V",
   "3W,3X,3Y,3Z,0l al ae,0hj gs,0g al ae,0af fd,0hw em,0dl fd,0ez d a A,3B,3C,3D,3E,3F,3G,3H,3I,3J",
   "3K,3L,3M,3N,3O,3P,3Q,3R,3S,3T,3U,3V,3W,3X,3Y,3Z,0l jm ae,0n em,0g jm ae,0cd,=A0,0NO-BREAK km",
   "0bc dd ah,0CENT h,0POUND h,0CURRENCY h,0YEN h,0BROKEN fe,0fl h,0an,0COPYRIGHT h",
   "0FEMININE ORDINAL INDICATOR,0bm m fa dn ah,0NOT h,0SOFT HYPHEN,0REGISTERED h,0cw,0DEGREE h",
   "0PLUS-MINUS h,0hf bo,1s,0co fd,0MICRO h,0PILCROW h,0aa cg,0fr,0hf bl",
   "0MASCULINE ORDINAL INDICATOR,0ax m fa dn ah,0VULGAR hc bl by,3bg,2s gf,0bc en ah",
   "0ez c a A b dl,5co,5af,5cd,5an,5do i,3AE,3C b fr,3E b dl,5co,5af,5an,3I b dl,5co,5af,5an,3ETH",
   "3N b cd,3O b dl,5co,5af,5cd,5an,0gl h,0ez c a O b v,3U b dl,5co,5af,5an,3Y b co,3THORN",
   "1d a SHARP S,3A b dl,5co,5af,5cd,5an,5do i,3AE,3C b fr,3E b dl,5co,5af,5an,3I b dl,5co,5af,5an",
   "3ETH,3N b cd,3O b dl,5co,5af,5cd,5an,0DIVISION h,0ez d a O b v,3U b dl,5co,5af,5an,3Y b co",
   "3THORN,3Y b an,1c a A b cw,1d a A b cw,1c a A b ep,1d a A b ep,1c a A b OGONEK,1d a A b OGONEK",
   "1c a C b co,1d a C b co,1c a C b af,1d a C b af,1c a C b cg i,1d a C b cg i,1c a C b ge",
   "1d a C b ge,1c a D b ge,1d a D b ge,1c a D b v,1d a D b v,1c a E b cw,1d a E b cw,1c a E b ep",
   "1d a E b ep,1c a E b cg i,1d a E b cg i,1c a E b OGONEK,1d a E b OGONEK,1c a E b ge",
   "1d a E b ge,1c a G b af,1d a G b af,1c a G b ep,1d a G b ep,1c a G b cg i,1d a G b cg i",
   "1c a G b fr,1d a G b fr,1c a H b af,1d a H b af,1c a H b v,1d a H b v,1c a I b cd,1d a I b cd",
   "1c a I b cw,1d a I b cw,1c a I b ep,1d a I b ep,1c a I b OGONEK,1d a I b OGONEK,1c a I b cg i",
   "1d a ko I,1c dr IJ,1d dr IJ,1c a J b af,1d a J b af,1c a K b fr,1d a K b fr,3KRA,1c a L b co",
   "1d a L b co,1c a L b fr,1d a L b fr,1c a L b ge,1d a L b ge,1c a L b aa cg,1d a L b aa cg",
   "1c a L b v,1d a L b v,1c a N b co,1d a N b co,1c a N b fr,1d a N b fr,1c a N b ge,1d a N b ge",
   "4PRECEDED BY ks,1c a ENG,1d a ENG,1c a O b cw,1d a O b cw,1c a O b ep,1d a O b ep",
   "1c a O b m co,1d a O b m co,1c dr OE,1d dr OE,1c a R b co,1d a R b co,1c a R b fr,1d a R b fr",
   "1c a R b ge,1d a R b ge,1c a S b co,1d a S b co,1c a S b af,1d a S b af,1c a S b fr",
   "1d a S b fr,1c a S b ge,1d a S b ge,1c a T b fr,1d a T b fr,1c a T b ge,1d a T b ge,1c a T b v",
   "1d a T b v,1c a U b cd,1d a U b cd,1c a U b cw,1d a U b cw,1c a U b ep,1d a U b ep",
   "1c a U b do i,1d a U b do i,1c a U b m co,1d a U b m co,1c a U b OGONEK,1d a U b OGONEK",
   "1c a W b af,1d a W b af,1c a Y b af,1d a Y b af,1c a Y b an,3Z b co,1d a Z b co,1c a Z b cg i",
   "1d a Z b cg i,1c a Z b ge,1d a Z b ge,3eu S,3B b v,1c a B b aw,5TOPBAR,1d a B b TOPBAR",
   "1c a ew et,1d a ew et,1c a dv O,3C b aw,1d a C b aw,1c a AFRICAN D,3D b aw,5TOPBAR",
   "1d a D b TOPBAR,3bs DELTA,1c a as E,3SCHWA,3dv E,3F b aw,1d a F b aw,1c a G b aw,3ky,1d a HV",
   "1c a lk,3I b v,3K b aw,1d a K b aw,3L b fe,3LAMBDA b v,1c a bs M,3N b l aw,1d a N b eu g LEG",
   "1c a O b aa cd,5kf,1d a O b kf,1c a OI,1d a OI,1c a P b aw,1d a P b aw,1a YR,1c a ew bo",
   "1d a ew bo,1c a ESH,1a as ESH LOOP,1d a T b ft aw,1c a T b aw,1d a T b aw,1c a T b cl aw",
   "3U b kf,1d a U b kf,1c a gc,3V b aw,3Y b aw,1d a Y b aw,1c a Z b v,1d a Z b v,1c a EZH,4as",
   "1d a EZH as,4b gy,1a bo b v,1c a ew ay,1d a ew ay,1a bc ga fk b v,2WYNN,2DENTAL CLICK",
   "2LATERAL CLICK,2ALVEOLAR CLICK,2cl CLICK,1c a DZ b ge,3D b d a Z b ge,1d a DZ b ge,1c a LJ",
   "3L b d a J,1d a LJ,1c a NJ,3N b d a J,1d a NJ,1c a A b ge,1d a A b ge,1c a I b ge,1d a I b ge",
   "1c a O b ge,1d a O b ge,1c a U b ge,1d a U b ge,1c a U b an p cw,1d a U b an p cw",
   "1c a U b an p co,1d a U b an p co,1c a U b an p ge,1d a U b an p ge,1c a U b an p dl",
   "1d a U b an p dl,3bs E,1c a A b an p cw,1d a A b an p cw,1c a A b cg i p cw,1d a A b cg i p cw",
   "1c a AE b cw,1d a AE b cw,1c a G b v,1d a G b v,1c a G b ge,1d a G b ge,1c a K b ge",
   "1d a K b ge,1c a O b OGONEK,1d a O b OGONEK,1c a O b OGONEK p cw,1d a O b OGONEK p cw",
   "1c a EZH b ge,1d a EZH b ge,3J b ge,1c a DZ,3D b d a Z,1d a DZ,1c a G b co,1d a G b co",
   "1c a HWAIR,3WYNN,3N b dl,1d a N b dl,1c a A b do i p co,1d a A b do i p co,1c a AE b co",
   "1d a AE b co,1c a O b v p co,1d a O b v p co,1c a A b m dl,1d a A b m dl,1c a A b bc ep",
   "1d a A b bc ep,1c a E b m dl,1d a E b m dl,1c a E b bc ep,1d a E b bc ep,1c a I b m dl",
   "1d a I b m dl,1c a I b bc ep,1d a I b bc ep,1c a O b m dl,1d a O b m dl,1c a O b bc ep",
   "1d a O b bc ep,1c a R b m dl,1d a R b m dl,1c a R b bc ep,1d a R b bc ep,1c a U b m dl",
   "1d a U b m dl,1c a U b bc ep,1d a U b bc ep,1c a S b ed o,1d a S b ed o,1c a T b ed o",
   "1d a T b ed o,1c a YOGH,1d a YOGH,1c a H b ge,1d a H b ge,1c a N b eu g LEG,1d a D b CURL",
   "1c a OU,1d a OU,1c a Z b aw,1d a Z b aw,1c a A b cg i,1d a A b cg i,1c a E b fr,1d a E b fr",
   "1c a O b an p cw,1d a O b an p cw,1c a O b cd p cw,1d a O b cd p cw,1c a O b cg i",
   "1d a O b cg i,1c a O b cg i p cw,1d a O b cg i p cw,1c a Y b cw,1d a Y b cw,3L b CURL",
   "3N b CURL,3T b CURL,3ko J,3DB fz,3QP fz,1c a A b v,3C b v,1d a C b v,1c a L b fe,3T b bu v",
   "1d a S b SWASH gy,3Z b SWASH gy,1c a ga fk,1d a ga fk,1c a B b v,3U fe,3bs V,3E b v,1d a E b v",
   "1c a J b v,1d a J b v,1c a d Q b aw gy,1d a Q b aw gy,1c a R b v,1d a R b v,1c a Y b v",
   "1d a Y b v,3bs A,3hs,3bs hs,3B b aw,3dv O,3C b CURL,3D b gy,5aw,3as E,3SCHWA,4b aw,3dv E",
   "3as dv E,6b aw,3el as dv E,3ko J b v,3G b aw,3ic G,1a d c G,1d a ky,3RAMS kf,3bs H,3H b aw",
   "3HENG b aw,3I b v,3lk,1a d c I,1d a L b aa cd,5BELT,5cl aw,3LEZH,3bs M,5b eu LEG,3M b aw",
   "3N b l aw,5cl aw,1a d c N,1d a BARRED O,1a d c OE,1d a el gw,3PHI,3bs R,5b eu LEG,6aw",
   "3R b eu LEG,5gy,5FISHHOOK,3as R b FISHHOOK,1a d c R,4bc R,1d a S b aw,3ESH,3ko J b v p aw",
   "3SQUAT as ESH,3ESH b CURL,3bs T,3T b cl aw,3U fe,3gc,3V b aw,3bs V,4W,4Y,1a d c Y",
   "1d a Z b cl aw,5CURL,3EZH,4b CURL,1a ga fk,2PHARYNGEAL VOICED FRICATIVE,2bc ga fk,2STRETCHED C",
   "2BILABIAL CLICK,2d c B,1d a el dv E,1a d c G b aw,4H,1d a J b ja,3bs K,1a d c L,1d a Q b aw",
   "1a ga fk b v,2as ga fk b v,1d a DZ fz,3DEZH fz,3DZ fz b CURL,3TS fz,3TESH fz,3TC fz b CURL",
   "3FENG fz,3LS fz,3LZ fz,1a BILABIAL PERCUSSIVE,2BIDENTAL PERCUSSIVE,1d a bs H b FISHHOOK,7p gy",
   "0ds a d H,4b aw,3J,3R,3bs R,5b aw,3c bc R,3W,3Y,2PRIME,2m PRIME,2bs ed,2ks,2as ed,2g bg do",
   "2l bg do,2ga fk,2as ga fk,2l ao,2g ao,2UP ao,2cq ao,2af fd,0ge,0ds a n em,2cw,2co fd,2dl fd",
   "2hw n em,3cw,3dl fd,3co fd,2eo ia,2bg eo ia,2CENTRED g bg do,3l bg do,2UP kn,2cq kn,2cj h",
   "2MINUS h,0ep,0cg i,0do i,0OGONEK,0d cd,0m co fd,0ds a RHOTIC aw,2fv fd,2d ky,3L,3S,3X",
   "3as ga fk,2EXTRA-HIGH ew fe,2fb ew fe,2MID ew fe,2hw ew fe,2EXTRA-LOW ew fe",
   "2YIN DEPARTING ew ah,2YANG DEPARTING ew ah,2VOICING,2UNASPIRATED,2m ks,2hw cq ao,3UP ao,3l ao",
   "3g ao,3do,2aa dl fd,3m dl fd,4co fd,2hw cd,2he ia,2BEGIN fb ew,2END fb ew,2BEGIN hw ew",
   "2END hw ew,2SHELF,2dv SHELF,2hw l f,0ch dl fd,1co fd,1af fd,1cd,1cw,1OVERLINE,1ep,1cg i,1an",
   "1aw i,1do i,1m co fd,1ge,1n em i,1m n em i,2dl fd,1cp,1bc ep,1bs ed i,1ed i,1as ed i,1ed i g",
   "1dl fd o,1co fd o,1l kn o,1g kn o,1l fa i,1kf,1l bg do o,1UP kn o,1cq kn o,1cj h o,1MINUS h o",
   "1PALATALIZED aw o,1cl aw o,1cg o,1an o,1do o,1ed o,1fr,1OGONEK,1n em o,1BRIDGE o,1bc m ARCH o",
   "1ge o,1af fd o,1ep o,1bc ep o,1cd o,1cw o,1hw em,1m hw em,1cd gr,1ev v gr,1eu v gr,1ev gs gr",
   "1eu gs gr,1g bg do o,1bc BRIDGE o,1al o,1SEAGULL o,1X i,1n cd,1m OVERLINE,1dl ew ah,1co ew ah",
   "1jq bd,2KORONIS,2id TONOS,2bb,1BRIDGE i,1fx h o,1m n em o,1l fa o,1NOT cd i,1HOMOTHETIC i",
   "1ld bx TO i,1l g f o,1ar f o,1GRAPHEME JOINER,1g ao i,1l bg do i,1FERMATA,1X o,1l ao o,1g ao o",
   "3p UP ao o,2bg do i,1cg i g,1cs o,1m do o,1ZIGZAG i,1m ep o,3,2cw,3o,2cd,2bc ep,2k f o",
   "1ez d a A,4E,4I,4O,4U,4C,4D,4H,4M,4R,4T,4V,4X,0jq c a HETA,1d a HETA,1c a hz SAMPI",
   "1d a hz SAMPI,1NUMERAL h,1aq NUMERAL h,1c a PAMPHYLIAN DIGAMMA,1d a PAMPHYLIAN DIGAMMA,=37A",
   "1bb,1d as LUNATE jo y,2fh LUNATE jo y,2as fh LUNATE jo y,1en ah,1c a YOT,=384,1TONOS,1id TONOS",
   "1c a hs b TONOS,1ANO TELEIA,1c a gj b TONOS,3ETA b TONOS,3lk b TONOS,=38C,3ir b TONOS,=38E",
   "3gc b TONOS,3gw b TONOS,1d a lk b id p TONOS,1c a hs,3BETA,3ky,3DELTA,3gj,3ZETA,3ETA,3jw,3lk",
   "3KAPPA,3LAMDA,3MU,3NU,3XI,3ir,3PI,3RHO,=3A3,3jo,3TAU,3gc,3PHI,3CHI,3PSI,3gw,3lk b id,3gc b id",
   "1d a hs b TONOS,3gj b TONOS,3ETA b TONOS,3lk b TONOS,3gc b id p TONOS,3hs,3BETA,3ky,3DELTA,3gj",
   "3ZETA,3ETA,3jw,3lk,3KAPPA,3LAMDA,3MU,3NU,3XI,3ir,3PI,3RHO,3q jo,3jo,3TAU,3gc,3PHI,3CHI,3PSI",
   "3gw,3lk b id,3gc b id,3ir b TONOS,3gc b TONOS,3gw b TONOS,1c KAI y,1BETA y,1jw y,1gc b aw y",
   "3co p aw y,3an p aw y,1PHI y,1PI y,1KAI y,1a hz KOPPA,1d a hz KOPPA,1a STIGMA,1d a STIGMA",
   "1a DIGAMMA,1d a DIGAMMA,1a KOPPA,1d a KOPPA,1a SAMPI,1d a SAMPI,0hu c a SHEI,1d a SHEI",
   "1c a FEI,1d a FEI,1c a KHEI,1d a KHEI,1c a HORI,1d a HORI,1c a GANGIA,1d a GANGIA,1c a SHIMA",
   "1d a SHIMA,1c a DEI,1d a DEI,0jq KAPPA y,1RHO y,1LUNATE jo y,1a YOT,1c jw y,1LUNATE gj y",
   "1as LUNATE gj y,1c a SHO,1d a SHO,1c LUNATE jo y,2a SAN,1d a SAN,1RHO b v y,1c as LUNATE jo y",
   "2fh LUNATE jo y,2as fh LUNATE jo y,0ho c a IE b dl,3IO,3DJE,3GJE,3UKRAINIAN IE,3DZE,3iz I,3YI",
   "3JE,3LJE,3NJE,3TSHE,3KJE,3I b dl,3ev U,3DZHE,3A,3BE,3VE,3GHE,3DE,3IE,3ZHE,3ZE,3I,3ev I,3KA,3EL",
   "3EM,3EN,3O,3PE,3ER,3ES,3TE,3U,3EF,3HA,3TSE,3CHE,3je,3SHCHA,3HARD h,3YERU,3SOFT h,3E,3YU,3YA",
   "1d a A,3BE,3VE,3GHE,3DE,3IE,3ZHE,3ZE,3I,3ev I,3KA,3EL,3EM,3EN,3O,3PE,3ER,3ES,3TE,3U,3EF,3HA",
   "3TSE,3CHE,3je,3SHCHA,3HARD h,3YERU,3SOFT h,3E,3YU,3YA,3IE b dl,3IO,3DJE,3GJE,3UKRAINIAN IE",
   "3DZE,3iz I,3YI,3JE,3LJE,3NJE,3TSHE,3KJE,3I b dl,3ev U,3DZHE,1c a gw,1d a gw,1c a YAT,1d a YAT",
   "1c a ig E,1d a ig E,1c a dh YUS,1d a dh YUS,1c a ig dh YUS,1d a ig dh YUS,1c a BIG YUS",
   "1d a BIG YUS,1c a ig BIG YUS,1d a ig BIG YUS,1c a KSI,1d a KSI,1c a PSI,1d a PSI,1c a FITA",
   "1d a FITA,1c a IZHITSA,1d a IZHITSA,1c a IZHITSA b m dl fd,1d a IZHITSA b m dl fd,1c a UK",
   "1d a UK,1c a ROUND gw,1d a ROUND gw,1c a gw b TITLO,1d a gw b TITLO,1c a OT,1d a OT,1c a KOPPA",
   "1d a KOPPA,1THOUSANDS h,0ch ho TITLO,2PALATALIZATION,2db PNEUMATA,2dc PNEUMATA,2POKRYTIE",
   "2ac THOUSANDS h,2MILLIONS h,0ho c a ev I b gy,1d a ev I b gy,1c a SEMISOFT h,1d a SEMISOFT h",
   "1c a ER b TICK,1d a ER b TICK,1c a GHE b UPTURN,1d a GHE b UPTURN,1c a GHE b v,1d a GHE b v",
   "1c a GHE b aa aw,1d a GHE b aa aw,1c a ZHE b cm,1d a ZHE b cm,1c a ZE b cm,1d a ZE b cm",
   "1c a KA b cm,1d a KA b cm,1c a KA b n v,1d a KA b n v,1c a KA b v,1d a KA b v,1c a BASHKIR KA",
   "1d a BASHKIR KA,1c a EN b cm,1d a EN b cm,1c dr EN GHE,1d dr EN GHE,1c a PE b aa aw",
   "1d a PE b aa aw,1c a ABKHASIAN HA,1d a ABKHASIAN HA,1c a ES b cm,1d a ES b cm,1c a TE b cm",
   "1d a TE b cm,1c a fg U,1d a fg U,1c a fg U b v,1d a fg U b v,1c a HA b cm,1d a HA b cm",
   "1c dr TE TSE,1d dr TE TSE,1c a CHE b cm,1d a CHE b cm,1c a CHE b n v,1d a CHE b n v,1c a SHHA",
   "1d a SHHA,1c a ABKHASIAN CHE,1d a ABKHASIAN CHE,1c a ABKHASIAN CHE b cm",
   "1d a ABKHASIAN CHE b cm,1a PALOCHKA,1c a ZHE b ep,1d a ZHE b ep,1c a KA b aw,1d a KA b aw",
   "1c a EL b gy,1d a EL b gy,1c a EN b aw,1d a EN b aw,1c a EN b gy,1d a EN b gy",
   "1c a KHAKASSIAN CHE,1d a KHAKASSIAN CHE,1c a EM b gy,1d a EM b gy,3PALOCHKA,1c a A b ep",
   "1d a A b ep,1c a A b an,1d a A b an,1c dr A IE,1d dr A IE,1c a IE b ep,1d a IE b ep,1c a SCHWA",
   "1d a SCHWA,1c a SCHWA b an,1d a SCHWA b an,1c a ZHE b an,1d a ZHE b an,1c a ZE b an",
   "1d a ZE b an,1c a ABKHASIAN DZE,1d a ABKHASIAN DZE,1c a I b cw,1d a I b cw,1c a I b an",
   "1d a I b an,1c a O b an,1d a O b an,1c a BARRED O,1d a BARRED O,1c a BARRED O b an",
   "1d a BARRED O b an,1c a E b an,1d a E b an,1c a U b cw,1d a U b cw,1c a U b an,1d a U b an",
   "1c a U b m co,1d a U b m co,1c a CHE b an,1d a CHE b an,1c a GHE b cm,1d a GHE b cm",
   "1c a YERU b an,1d a YERU b an,1c a GHE b v p aw,1d a GHE b v p aw,1c a HA b aw,1d a HA b aw",
   "1c a HA b v,1d a HA b v,1c a KOMI DE,1d a KOMI DE,1c a KOMI DJE,1d a KOMI DJE,1c a KOMI ZJE",
   "1d a KOMI ZJE,1c a KOMI DZJE,1d a KOMI DZJE,1c a KOMI LJE,1d a KOMI LJE,1c a KOMI NJE",
   "1d a KOMI NJE,1c a KOMI SJE,1d a KOMI SJE,1c a KOMI TJE,1d a KOMI TJE,1c a as ZE,1d a as ZE",
   "1c a EL b aw,1d a EL b aw,1c a LHA,1d a LHA,1c a RHA,1d a RHA,1c a YAE,1d a YAE,1c a QA",
   "1d a QA,1c a WE,1d a WE,1c a ALEUT KA,1d a ALEUT KA,1c a EL b aa aw,1d a EL b aa aw",
   "1c a EN b aa aw,1d a EN b aa aw,1c a PE b cm,1d a PE b cm,1c a SHHA b cm,1d a SHHA b cm",
   "1c a EN b l aw,1d a EN b l aw,1c a DZZHE,1d a DZZHE,1c a DCHE,1d a DCHE,1c a EL b cm",
   "1d a EL b cm,=531,0ARMENIAN c a AYB,3BEN,3GIM,3DA,3ECH,3ZA,3EH,3ET,3TO,3ZHE,3INI,3LIWN,3XEH",
   "3CA,3KEN,3HO,3JA,3GHAD,3CHEH,3MEN,3YI,3NOW,3je,3VO,3jy,3PEH,3JHEH,3RA,3SEH,3VEW,3TIWN,3REH,3CO",
   "3YIWN,3PIWR,3KEH,3OH,3FEH,=559,1ds a l bg do,1ks,1EMPHASIS ah,1dd ah,1ed,1en ah,1ec ah",
   "1d a bs AYB,3AYB,3BEN,3GIM,3DA,3ECH,3ZA,3EH,3ET,3TO,3ZHE,3INI,3LIWN,3XEH,3CA,3KEN,3HO,3JA",
   "3GHAD,3CHEH,3MEN,3YI,3NOW,3je,3VO,3jy,3PEH,3JHEH,3RA,3SEH,3VEW,3TIWN,3REH,3CO,3YIWN,3PIWR,3KEH",
   "3OH,3FEH,2dr ECH YIWN,2a YI b v,1hm fk,1HYPHEN,=58D,0fu ARMENIAN ETERNITY h",
   "0gi ARMENIAN ETERNITY h,0ARMENIAN DRAM h,=591,0HEBREW fd ETNAHTA,2SEGOL,2SHALSHELET",
   "2ZAQEF QATAN,3GADOL,2TIPEHA,2REVIA,2ZARQA,2PASHTA,2YETIV,2TEVIR,2GERESH,3MUQDAM,2GERSHAYIM",
   "2QARNEY PARA,2TELISHA GEDOLA,2PAZER,2ATNAH HAFUKH,2MUNAH,2MAHAPAKH,2MERKHA,3KEFULA,2DARGA",
   "2QADMA,2TELISHA QETANA,2YERAH BEN YOMO,2OLE,2ILUY,2DEHI,2ZINOR,1ah MASORA ai,1POINT SHEVA",
   "2HATAF SEGOL,3PATAH,3QAMATS,2HIRIQ,2TSERE,2SEGOL,2PATAH,2QAMATS,2HOLAM,3HASER FOR VAV,2QUBUTS",
   "2ik OR MAPIQ,2METEG,1be MAQAF,1POINT RAFE,1be PASEQ,1POINT SHIN cg,2SIN cg,1be SOF PASUQ",
   "1ah ba cg,2aq cg,1be NUN HAFUKHA,1POINT QAMATS QATAN,=5D0,1a de,2BET,2GIMEL,2DALET,2HE,2VAV",
   "2ZAYIN,2HET,2TET,2YOD,2q KAF,2KAF,2LAMED,2q MEM,2MEM,2q NUN,2NUN,2SAMEKH,2AYIN,2q PE,2PE",
   "2q TSADI,2TSADI,2QOF,2RESH,2SHIN,2TAV,=5EF,1YOD ag,1dr YIDDISH m VAV,3VAV YOD,3m YOD",
   "1be GERESH,2GERSHAYIM,=600,0ix cx h,1h SANAH,1FOOTNOTE MARKER,1h SAFHA,2SAMVAT,1cx ah i",
   "0ie CUBE ROOT,1FOURTH ROOT,0ix RAY,0ie PER MILLE h,2iu ad h,0AFGHANI h,0ix ed,1DATE dj",
   "1POETIC VERSE h,1h MISRA,2SALLALLAHOU ALAYHE WASSALLAM,2ALAYHE ASSALLAM,2RAHMATULLAH ALAYHE",
   "2RADI ALLAHOU ANHU,2TAKHALLUS,1d fb TAH,3dr de b LAM b gp,3ZAIN,2FATHA,2DAMMA,2KASRA,1ji,1a ah",
   "1END OF TEXT ah,1dt cg be ah,1en ah,1a KASHMIRI gp,2hi,2de b MADDA i,4hi i,2WAW b hi i",
   "2de b hi o,2gp b hi i,2de,2BEH,2TEH MARBUTA,3,2THEH,2es,2if,2hg,2DAL,2THAL,2REH,2ZAIN,2SEEN",
   "2SHEEN,2SAD,2DAD,2TAH,2ZAH,2AIN,2GHAIN,2KEHEH b bo cy i,4s cy o,2FARSI gp b bc V,5bo cy i",
   "5s cy i,1TATWEEL,1a FEH,2QAF,2KAF,2LAM,2cf,2jl,2HEH,2WAW,2de br,2gp,1FATHATAN,1DAMMATAN",
   "1KASRATAN,1FATHA,1DAMMA,1KASRA,1SHADDA,1SUKUN,1MADDAH i,1hi i,2o,1SUBSCRIPT de,1bc DAMMA",
   "1ah jl GHUNNA,1ZWARAKAY,1bn h d V i,3bc d V i,3cg o,1as DAMMA,1FATHA b bo cy,1WAVY hi o",
   "0ie bp dq,2bl,2bo,2s,2au,2ay,2et,2av,2ap,2ci,0ix PERCENT h,1DECIMAL dj,1THOUSANDS dj,1ay eh go",
   "1a ko BEH,3QAF,2hf de,2de WASLA,3b WAVY hi i,6o,2fb hi,4de,4WAW,2U b hi i,2fb hi gp,2TTEH",
   "2TTEHEH,2BEEH,2TEH b do,4s cy i ab,2PEH,2TEHEH,2BEHEH,2if b hi i,4bo cy n i,2NYEH,2DYEH",
   "2if b s cy i,2TCHEH,2TCHEHEH,2DDAL,2DAL b do,4cg o,6p d TAH,2DAHAL,2DDAHAL,2DUL",
   "2DAL b s cy i ab,4au cy i,2RREH,2REH b d V,4do,4cg o,4d V o,4cg o p cg i,4bo cy i,2JEH",
   "2REH b au cy i,2SEEN b cg o p cg i,4s cy o,7p s cy i,2SAD b bo cy o,4s cy i,2TAH b s cy i",
   "2AIN b s cy i,2ko FEH,2FEH b cg MOVED o,5o,2VEH,2FEH b s cy o,2PEHEH,2QAF b cg i,4s cy i",
   "2KEHEH,2SWASH KAF,2KAF b do,4cg i,2NG,2KAF b s cy o,2GAF,3b do,2NGOEH,2GAF b bo cy o,2GUEH",
   "2GAF b s cy i,2LAM b d V,4cg i,4s cy i,6o,2jl b cg o,3GHUNNA,2RNOON,2jl b do,4s cy i",
   "2HEH DOACHASHMEE,2TCHEH b cg i,2HEH b gp i,3GOAL,4b hi i,2TEH MARBUTA GOAL,2WAW b do",
   "2KIRGHIZ OE,2OE,2U,2YU,2KIRGHIZ YU,2WAW b bo cy i,2VE,2FARSI gp,2gp b gy,4d V,2WAW b cg i,2E",
   "2gp b s cy o,3BARREE,4b hi i,1hm fk,1a AE,1d fb dr SAD b LAM b de br,4QAF b LAM b de br",
   "3cf u e,3LAM de,3es,3s cy,3SEEN,1END OF AYAH,1START OF RUB EL HIZB,1d fb ROUNDED dq",
   "3UPRIGHT RECTANGULAR dq,3ko HEAD OF hg,3cf j e,2hw SEEN,2fb MADDA,2WAW,2gp,2fb gp,3jl",
   "1PLACE OF SAJDAH,1EMPTY ca hw fk,3fb fk,1ROUNDED fb fk b FILLED ca,1d hw cf,1a DAL b bc V",
   "2REH b bc V,0EXTENDED ie bp dq,3bl,3bo,3s,3au,3ay,3et,3av,3ap,3ci,0ix a SHEEN b cg o",
   "2DAD b cg o,2GHAIN b cg o,1h SINDHI AMPERSAND,3POSTPOSITION MEN,1a HEH b bc V",
   "0SYRIAC END OF PARAGRAPH,1SUPRALINEAR hm fk,1SUBLINEAR hm fk,1SUPRALINEAR ia,1SUBLINEAR ia",
   "1t ia,1ia SKEWED l,3g,1SUPRALINEAR ia SKEWED l,1SUBLINEAR ia SKEWED g,1CONTRACTION",
   "1HARKLEAN OBELUS,2METOBELUS,2ASTERISCUS,=70F,1ec ah,1a ALAPH,2hf ALAPH,2BETH,2GAMAL,3GARSHUNI",
   "2DALATH,2ko DALATH RISH,2HE,2WAW,2ZAIN,2HETH,2TETH,3GARSHUNI,2YUDH,3HE,2KAPH,2LAMADH,2MIM,2NUN",
   "2SEMKATH,2q SEMKATH,2E,2PE,2as PE,2SADHE,2QAPH,2RISH,2SHIN,2TAW,2PERSIAN BHETH,3GHAMAL",
   "3DHALATH,1PTHAHA i,2o,2fh,1ZQAPHA i,2o,2fh,1RBASA i,2o,1fh ZLAMA t,3ANGULAR,1HBASA i,2o",
   "1HBASA-ESASA fh,1ESASA i,2o,1RWAHA,1FEMININE cg,1QUSHSHAYA,1RUKKAKHA,1bo n cy i,4o,1s cy i,3o",
   "1kc em i,3o,1MUSIC,1BARREKH,=74D,1a SOGDIAN ZHAIN,3KHAPH,3FE,0ix a BEH b s cy HORIZONTALLY o",
   "4cg o p s cy i,4s cy bf ar o,9p bo cy i,4bo cy o p cg i,4bc d V o,4d V,2if b bo cy i",
   "4s cy bf ar o,2DAL b bo cy jx o p d TAH,4bc d V o,2REH b v,2SEEN b au cy i,2AIN b bo cy i",
   "4s cy bf ab i,4bo cy jx i,2FEH b bo cy o,4s cy bf ar o,2KEHEH b cg i,4s cy i,6bf ar o",
   "2cf b cg i,5o,2jl b bo cy o,4d TAH,5V,2LAM b fe,2REH b bo cy jx i,4hi i,2SEEN b bo cy jx i",
   "2if b d ix a TAH o,8p bo cy,2SEEN b d ix a TAH p bo cy,2REH b d ix a TAH p bo cy",
   "2if b d ix a TAH i,2de b EXTENDED ie bp bo i,7s i,2FARSI gp b EXTENDED ie bp bo i,8s i,8au o",
   "2WAW b EXTENDED ie bp bo i,7s i,2gp BARREE b EXTENDED ie bp bo i,8s i",
   "2if b EXTENDED ie bp au o,2SEEN b EXTENDED ie bp au i,4bc V,2KAF b bo cy i,0THAANA a HAA",
   "2SHAVIYANI,2NOONU,2RAA,2BAA,2LHAVIYANI,2KAAFU,2ALIFU,2VAAVU,2MEEMU,2FAAFU,2DHAALU,2THAA,2LAAMU",
   "2GAAFU,2GNAVIYANI,2SEENU,2DAVIYANI,2ZAVIYANI,2TAVIYANI,2YAA,2PAVIYANI,2JAVIYANI,2CHAVIYANI",
   "2TTAA,2HHAA,2KHAA,2THAALU,2ZAA,2SHEENU,2SAADHU,2DAADHU,2TO,2ZO,2AINU,2GHAINU,2QAAFU,2WAAVU",
   "1ABAFILI,1AABAAFILI,1IBIFILI,1EEBEEFILI,1UBUFILI,1OOBOOFILI,1EBEFILI,1EYBEYFILI,1OBOFILI",
   "1OABOAFILI,1SUKUN,1a NAA,=7C0,0NKO bp dq,2bl,2bo,2s,2au,2ay,2et,2av,2ap,2ci,1a A,2EE,2I,2E,2U",
   "2OO,2O,2DAGBASINNA,2N,2BA,2PA,2TA,2JA,2jy,2DA,2RA,2RRA,2SA,2GBA,2FA,2KA,2LA,2NA WOLOSO,2MA,2kb",
   "2NA,2HA,2WA,2YA,2kb WOLOSO,2JONA JA,3jy,3RA,1ch ev fb ew,3hw ew,3RISING ew,2eu DESCENDING ew",
   "3fb ew,3hw ew,3RISING ew,2NASALIZATION ah,2m cg i,1fb ew ks,1hw ew ks,1y OO DENNEN,2GBAKURUNEN",
   "1ed,1dd ah,1LAJANYALAN,=7FD,1DANTAYALAN,1DOROME h,1TAMAN h"]

/-- The letters of South Asia. -/
def indicNames : List String :=
  ["=800,0SAMARITAN a ALAF,2BIT,2GAMAN,2DALAT,2IY,2BAA,2ZEN,2IT,2TIT,2YUT,2KAAF,2LABAT,2MIM,2NUN",
   "2SINGAAT,2IN,2FI,2TSAADIY,2QUF,2RISH,2SHAN,2TAAF,1ah IN,2IN-ALAF,2OCCLUSION,2ik",
   "1ds a EPENTHETIC YUT,1ah EPENTHETIC YUT,1bn h eu E,3E,3OVERLONG AA,3eu AA,3AA,3OVERLONG A",
   "3eu A,3A,1ds a ev A,1bn h ev A,3eu U,3U,1ds a I,1bn h eu I,3I,3O,3SUKUN,1ah NEQUDAA,=830",
   "1be NEQUDAA,2AFSAAQ,2ANGED,2BAU,2ATMAAU,2SHIYYAALAA,1ec ah,1be MELODIC QITSA,2ZIQAA,2QITSA",
   "2ZAEF,2TURU,2ARKAANU,2SOF MASHFAAT,2ANNAAU,=840,0MANDAIC a HALQA,2AB,2AG,2AD,2AH,2USHENNA,2AZ",
   "2IT,2ATT,2AKSA,2AK,2AL,2AM,2AN,2AS,2IN,2AP,2ASZ,2AQ,2AR,2ASH,2AT,2DUSHENNA,2KAD,2AIN",
   "1AFFRICATION ah,1VOCALIZATION ah,1GEMINATION ah,=85E,1be,=860,0SYRIAC a MALAYALAM jd,3JA,3kb",
   "3TTA,3NNA,3NNNA,3BHA,3RA,3LLA,3LLLA,3SSA,=870,0ix a de b ATTACHED FATHA,5kr g FATHA,4g aa v",
   "4l aa v,4ATTACHED KASRA,5di g KASRA,5ROUND cg i,5g ROUND cg,5l ROUND cg,5ROUND cg o,4cg i",
   "4ATTACHED kr g FATHA p cg i,4g aa v p cg i,4ATTACHED di g KASRA p cg i,5kr g FATHA p l do",
   "4g aa v p l do,4ATTACHED di g KASRA p l do,5g hi,5l hi,1TATWEEL b OVERSTRUCK hi,4WAW,3bo cy o",
   "1a THIN gp,1BASELINE ROUND cg,1he ROUND cg,1a jl b bc d V,2if b bc d V o,2TAH b cg o,4s cy o",
   "2KEHEH b bo cy jx o,1n gy,=890,1POUND ah i,1PIASTRE ah i,=897,1PEPET,1d fb WORD AL-JUZ",
   "2hw WORD ISHMAAM,4IMAALA,4TASHEEL,1MADDA WAAJIB,1hf de MOKHASSAS,1DOUBLED MADDA",
   "1bg MADDA da MADDA,1a BEH b d V o,4hi i,2es b bo cy i,2TAH b bo cy i,2FEH b cg o p s cy i",
   "2QAF b cg o,2LAM b m fe,2cf b s cy i,2gp b bo cy o p hi i,8cg i,2REH b LOOP,2WAW b cg WITHIN",
   "2ROHINGYA gp,2hw de,2DAL b s cy o,2SAD b s cy o,2GAF b bc v,2fg WAW,2ZAIN b bc V i",
   "2AIN b s cy o,2KAF b cg o,2QAF b cg o p NO cy i,2BEH b d cf i,2PEH b d cf i,2TEH b d TEH i",
   "2REH b d jl i,2gp b bo cy o p d jl i,2AFRICAN FEH,3QAF,3jl,2PEH b d V,2TEH b d V,2TTEH b d V",
   "2TCHEH b d V,2KEHEH b d V,2GHAIN b s cy i,2AFRICAN QAF b s cy i,2es b s cy i,6o",
   "2LAM b d ix a TAH i,2GRAF,1d FARSI gp,2fb FARSI gp,3gp BARREE b bo cy o,3WORD SAH,3ZAH",
   "1dg ROUND cg i,4o,1SUKUN o,1dg ai o,2ROUND cg jr ai o,1d hw WAW,2fb WORD AR-RUB,3SAD,3AIN,3QAF",
   "3jl b KASRA,2hw jl b KASRA,2fb WORD ATH-THALATHA,4AS-SAJDA,4AN-NISF,4SAKTA,4QIF,4WAQFA",
   "3FOOTNOTE MARKER,3h SAFHA,1DISPUTED END OF AYAH,1bs DAMMA o,1jm FATHA,2DAMMA,2KASRA,2FATHATAN",
   "2DAMMATAN,2KASRATAN,1ew bl cg i,2bo cy i,2LOOP i,2bl cg o,2bo cy o,2LOOP o,1dv FATHATAN",
   "2DAMMATAN,2KASRATAN,1d fb WAW,1FATHA b do,3cg i,1KASRA b cg o,1l ao i,1g ao i,1l ao o,1g ao o",
   "1m g ao i,5b cg,1g ao i b cg,1DAMMA b cg,1ah SIDEWAYS jl GHUNNA,0DEVANAGARI h bc cp,2cp,2bt",
   "2dw,1a ev A,2A,2AA,2I,2II,2U,2UU,2bz R,3L,2lg E,2ev E,2E,2AI,2lg O,2ev O,2O,2AU,2KA,2ka,2GA",
   "2GHA,2jd,2CA,2jy,2JA,2JHA,2kb,2TTA,2ii,2DDA,2io,2NNA,2TA,2kp,2DA,2DHA,2NA,2NNNA,2PA,2PHA,2BA",
   "2BHA,2MA,2YA,2RA,2RRA,2LA,2LLA,2LLLA,2VA,2je,2SSA,2SA,2HA,1bn h OE,3OOE,1h jn,2ht,1bn h AA,3I",
   "3II,3U,3UU,3bz R,4RR,3lg E,3ev E,3E,3AI,3lg O,3ev O,3O,3AU,1h ej,1bn h PRISHTHAMATRA E,3AW,1OM",
   "1STRESS h UDATTA,3ANUDATTA,1dl fd,1co fd,1bn h lg eu E,3UE,3UUE,1a QA,2KHHA,2GHHA,2ZA,2DDDHA",
   "2RHA,2FA,2YYA,2bz RR,3LL,1bn h bz L,4LL,1hh,1m hh,1bp dq,2bl,2bo,2s,2au,2ay,2et,2av,2ap,2ci",
   "1ec h,1h fb SPACING cg,1a lg A,2OE,2OOE,2AW,2UE,2UUE,2MARWARI DDA,2ZHA,2am YA,2GGA,2JJA,2ga fk",
   "2DDDA,2BBA,0BENGALI ANJI,1h cp,2bt,2dw,=985,1a A,2AA,2I,2II,2U,2UU,2bz R,3L,=98F,2E,2AI,=993",
   "2O,2AU,2KA,2ka,2GA,2GHA,2jd,2CA,2jy,2JA,2JHA,2kb,2TTA,2ii,2DDA,2io,2NNA,2TA,2kp,2DA,2DHA,2NA",
   "=9AA,2PA,2PHA,2BA,2BHA,2MA,2YA,2RA,=9B2,2LA,=9B6,2je,2SSA,2SA,2HA,=9BC,1h jn,2ht,1bn h AA,3I",
   "3II,3U,3UU,3bz R,4RR,=9C7,3E,3AI,=9CB,3O,3AU,1h ej,1a KHANDA TA,=9D7,1AU kg ah,=9DC,1a RRA",
   "2RHA,=9DF,2YYA,2bz RR,3LL,1bn h bz L,4LL,=9E6,1bp dq,2bl,2bo,2s,2au,2ay,2et,2av,2ap,2ci",
   "1a RA b aa bu,4aq bu,1RUPEE ah,2h,1CURRENCY NUMERATOR bl,3bo,3s,3au",
   "3bl LESS THAN THE DENOMINATOR,2DENOMINATOR SIXTEEN,1ISSHAR,1GANDA ah,1a VEDIC bt,1ec h",
   "1SANDHI ah,=A01,0GURMUKHI h ADAK BINDI,2BINDI,2dw,=A05,1a A,2AA,2I,2II,2U,2UU,=A0F,2EE,2AI",
   "=A13,2OO,2AU,2KA,2ka,2GA,2GHA,2jd,2CA,2jy,2JA,2JHA,2kb,2TTA,2ii,2DDA,2io,2NNA,2TA,2kp,2DA,2DHA",
   "2NA,=A2A,2PA,2PHA,2BA,2BHA,2MA,2YA,2RA,=A32,2LA,2LLA,=A35,2VA,2je,=A38,2SA,2HA,=A3C,1h jn,=A3E",
   "1bn h AA,3I,3II,3U,3UU,=A47,3EE,3AI,=A4B,3OO,3AU,1h ej,=A51,2UDAAT,=A59,1a KHHA,2GHHA,2ZA,2RRA",
   "=A5E,2FA,=A66,1bp dq,2bl,2bo,2s,2au,2ay,2et,2av,2ap,2ci,1TIPPI,1ADDAK,1IRI,1URA,1EK ONKAR",
   "1h YAKASH,1ec h,=A81,0GUJARATI h cp,2bt,2dw,=A85,1a A,2AA,2I,2II,2U,2UU,2bz R,3L,1bn lg E,=A8F",
   "1a E,2AI,1bn lg O,=A93,1a O,2AU,2KA,2ka,2GA,2GHA,2jd,2CA,2jy,2JA,2JHA,2kb,2TTA,2ii,2DDA,2io",
   "2NNA,2TA,2kp,2DA,2DHA,2NA,=AAA,2PA,2PHA,2BA,2BHA,2MA,2YA,2RA,=AB2,2LA,2LLA,=AB5,2VA,2je,2SSA",
   "2SA,2HA,=ABC,1h jn,2ht,1bn h AA,3I,3II,3U,3UU,3bz R,4RR,3lg E,=AC7,3E,3AI,3lg O,=ACB,3O,3AU",
   "1h ej,=AD0,1OM,=AE0,1a bz RR,3LL,1bn h bz L,4LL,=AE6,1bp dq,2bl,2bo,2s,2au,2ay,2et,2av,2ap,2ci",
   "1ec h,1RUPEE h,=AF9,1a ZHA,1h SUKUN,2SHADDA,2MADDAH,2THREE-DOT jn i,2ai jn i,2TWO-CIRCLE jn i",
   "=B01,0ORIYA h cp,2bt,2dw,=B05,1a A,2AA,2I,2II,2U,2UU,2bz R,3L,=B0F,2E,2AI,=B13,2O,2AU,2KA,2ka",
   "2GA,2GHA,2jd,2CA,2jy,2JA,2JHA,2kb,2TTA,2ii,2DDA,2io,2NNA,2TA,2kp,2DA,2DHA,2NA,=B2A,2PA,2PHA",
   "2BA,2BHA,2MA,2YA,2RA,=B32,2LA,2LLA,=B35,2VA,2je,2SSA,2SA,2HA,=B3C,1h jn,2ht,1bn h AA,3I,3II,3U",
   "3UU,3bz R,4RR,=B47,3E,3AI,=B4B,3O,3AU,1h ej,=B55,2OVERLINE,1AI kg ah,1AU kg ah,=B5C,1a RRA",
   "2RHA,=B5F,2YYA,2bz RR,3LL,1bn h bz L,4LL,=B66,1bp dq,2bl,2bo,2s,2au,2ay,2et,2av,2ap,2ci",
   "1ISSHAR,1a WA,1hc bl by,3bg,2s gf,2bl fj,3hb,2s SIXTEENTHS,=B82,0TAMIL h bt,2dw,=B85,1a A,2AA",
   "2I,2II,2U,2UU,=B8E,2E,2EE,2AI,=B92,2O,2OO,2AU,2KA,=B99,2jd,2CA,=B9C,2JA,=B9E,2kb,2TTA,=BA3",
   "2NNA,2TA,=BA8,2NA,2NNNA,2PA,=BAE,2MA,2YA,2RA,2RRA,2LA,2LLA,2LLLA,2VA,2je,2SSA,2SA,2HA,=BBE",
   "1bn h AA,3I,3II,3U,3UU,=BC6,3E,3EE,3AI,=BCA,3O,3OO,3AU,1h ej,=BD0,1OM,=BD7,1AU kg ah,=BE6",
   "1bp dq,2bl,2bo,2s,2au,2ay,2et,2av,2ap,2ci,1cx iu,2bl ac,3ad,1DAY h,1MONTH h,1YEAR h,1DEBIT h",
   "1CREDIT h,1AS i h,1RUPEE h,1cx h,=C00,0TELUGU h ch cp i,2cp,2bt,2dw,2ch bt i,1a A,2AA,2I,2II",
   "2U,2UU,2bz R,3L,=C0E,2E,2EE,2AI,=C12,2O,2OO,2AU,2KA,2ka,2GA,2GHA,2jd,2CA,2jy,2JA,2JHA,2kb,2TTA",
   "2ii,2DDA,2io,2NNA,2TA,2kp,2DA,2DHA,2NA,=C2A,2PA,2PHA,2BA,2BHA,2MA,2YA,2RA,2RRA,2LA,2LLA,2LLLA",
   "2VA,2je,2SSA,2SA,2HA,=C3C,1h jn,2ht,1bn h AA,3I,3II,3U,3UU,3bz R,4RR,=C46,3E,3EE,3AI,=C4A,3O",
   "3OO,3AU,1h ej,=C55,1kg ah,1AI kg ah,=C58,1a TSA,2DZA,2RRRA,=C5D,2NAKAARA POLLU,=C60,2bz RR,3LL",
   "1bn h bz L,4LL,=C66,1bp dq,2bl,2bo,2s,2au,2ay,2et,2av,2ap,2ci,=C77,1h SIDDHAM",
   "1hc bp dq FOR ODD POWERS OF au,3bl FOR ODD POWERS OF au,3bo FOR ODD POWERS OF au",
   "3s FOR ODD POWERS OF au,3bl FOR EVEN POWERS OF au,3bo FOR EVEN POWERS OF au",
   "3s FOR EVEN POWERS OF au,1h TUUMU,0KANNADA h SPACING cp,2cp,2bt,2dw,2SIDDHAM,1a A,2AA,2I,2II",
   "2U,2UU,2bz R,3L,=C8E,2E,2EE,2AI,=C92,2O,2OO,2AU,2KA,2ka,2GA,2GHA,2jd,2CA,2jy,2JA,2JHA,2kb,2TTA",
   "2ii,2DDA,2io,2NNA,2TA,2kp,2DA,2DHA,2NA,=CAA,2PA,2PHA,2BA,2BHA,2MA,2YA,2RA,2RRA,2LA,2LLA,=CB5",
   "2VA,2je,2SSA,2SA,2HA,=CBC,1h jn,2ht,1bn h AA,3I,3II,3U,3UU,3bz R,4RR,=CC6,3E,3EE,3AI,=CCA,3O",
   "3OO,3AU,1h ej,=CD5,1kg ah,1AI kg ah,=CDD,1a NAKAARA POLLU,2FA,=CE0,2bz RR,3LL,1bn h bz L,4LL",
   "=CE6,1bp dq,2bl,2bo,2s,2au,2ay,2et,2av,2ap,2ci,=CF1,1h JIHVAMULIYA,2UPADHMANIYA,2ch bt i g",
   "=D00,0MALAYALAM h ch bt i,2cp,2bt,2dw,1a VEDIC bt,2A,2AA,2I,2II,2U,2UU,2bz R,3L,=D0E,2E,2EE",
   "2AI,=D12,2O,2OO,2AU,2KA,2ka,2GA,2GHA,2jd,2CA,2jy,2JA,2JHA,2kb,2TTA,2ii,2DDA,2io,2NNA,2TA,2kp",
   "2DA,2DHA,2NA,2NNNA,2PA,2PHA,2BA,2BHA,2MA,2YA,2RA,2RRA,2LA,2LLA,2LLLA,2VA,2je,2SSA,2SA,2HA",
   "2TTTA,1h n fe ej,2CIRCULAR ej,2ht,1bn h AA,3I,3II,3U,3UU,3bz R,4RR,=D46,3E,3EE,3AI,=D4A,3O,3OO",
   "3AU,1h ej,1a cg REPH,1h PARA,=D54,1a CHILLU M,3Y,3LLL,1AU kg ah",
   "1hc bl ONE-HUNDRED-AND-SIXTIETH,3FORTIETH,2s EIGHTIETHS,2bl TWENTIETH,3TENTH,2s TWENTIETHS",
   "2bl FIFTH,1a hz II,2bz RR,3LL,1bn h bz L,4LL,=D66,1bp dq,2bl,2bo,2s,2au,2ay,2et,2av,2ap,2ci",
   "1cx iu,2bl ac,3ad,1hc bl by,3bg,2s gf,2bl fj,3hb,2s SIXTEENTHS,1DATE ah,1a CHILLU NN,3N,3RR,3L",
   "3LL,3K,=D81,0SINHALA h cp,2ANUSVARAYA,2VISARGAYA,=D85,1a AYANNA,2AAYANNA,2AEYANNA,2AEEYANNA",
   "2IYANNA,2IIYANNA,2UYANNA,2UUYANNA,2IRUYANNA,2IRUUYANNA,2ILUYANNA,2ILUUYANNA,2EYANNA,2EEYANNA",
   "2AIYANNA,2OYANNA,2OOYANNA,2AUYANNA,=D9A,2jp KAYANNA,2iw KAYANNA,2jp GAYANNA,2iw GAYANNA",
   "2KANTAJA NAASIKYAYA,2SANYAKA GAYANNA,2jp CAYANNA,2iw CAYANNA,2jp JAYANNA,2iw JAYANNA",
   "2TAALUJA NAASIKYAYA,3SANYOOGA NAAKSIKYAYA,2SANYAKA JAYANNA,2jp TTAYANNA,2iw TTAYANNA",
   "2jp DDAYANNA,2iw DDAYANNA,2MUURDHAJA NAYANNA,2SANYAKA DDAYANNA,2jp TAYANNA,2iw TAYANNA",
   "2jp DAYANNA,2iw DAYANNA,2DANTAJA NAYANNA,=DB3,2SANYAKA DAYANNA,2jp PAYANNA,2iw PAYANNA",
   "2jp BAYANNA,2iw BAYANNA,2MAYANNA,2AMBA BAYANNA,2YAYANNA,2RAYANNA,=DBD,2DANTAJA LAYANNA,=DC0",
   "2VAYANNA,2TAALUJA SAYANNA,2MUURDHAJA SAYANNA,2DANTAJA SAYANNA,2HAYANNA,2MUURDHAJA LAYANNA",
   "2FAYANNA,=DCA,1h AL-LAKUNA,=DCF,1bn h AELA-PILLA,3KETTI AEDA-PILLA,3DIGA AEDA-PILLA",
   "3KETTI IS-PILLA,3DIGA IS-PILLA,3KETTI PAA-PILLA,=DD6,3DIGA PAA-PILLA,=DD8,3GAETTA-PILLA",
   "3KOMBUVA,3DIGA KOMBUVA,3KOMBU DEKA,3KOMBUVA HAA AELA-PILLA,5DIGA AELA-PILLA,5GAYANUKITTA",
   "3GAYANUKITTA,=DE6,1LITH bp dq,3bl,3bo,3s,3au,3ay,3et,3av,3ap,3ci,=DF2,1bn h DIGA GAETTA-PILLA",
   "4GAYANUKITTA,1be KUNDDALIYA,=E01,0THAI gt KO KAI,2KHO KHAI,3KHUAT,3KHWAI,3KHON,3RAKHANG",
   "2NGO NGU,2CHO CHAN,3CHING,3CHANG,2SO SO,2CHO CHOE,2YO YING,2DO CHADA,2TO PATAK,2THO THAN",
   "3NANGMONTHO,3PHUTHAO,2NO NEN,2DO DEK,2TO TAO,2THO THUNG,3THAHAN,3THONG,2NO NU,2BO BAIMAI",
   "2PO PLA,2PHO PHUNG,2FO FA,2PHO PHAN,2FO FAN,2PHO SAMPHAO,2MO MA,2YO YAK,2RO RUA,2RU,2LO LING",
   "2LU,2WO WAEN,2SO SALA,3RUSI,3SUA,2HO HIP,2LO CHULA,2O ANG,2HO NOKHUK,2PAIYANNOI,2SARA A",
   "2MAI HAN-AKAT,2SARA AA,3AM,3I,3II,3UE,3UEE,3U,3UU,2PHINTHU,=E3F,1CURRENCY y BAHT,1gt SARA E",
   "3AE,3O,3AI MAIMUAN,4MAIMALAI,2LAKKHANGYAO,2MAIYAMOK,2MAITAIKHU,2MAI EK,3THO,3TRI,3CHATTAWA",
   "2THANTHAKHAT,2NIKHAHIT,2YAMAKKAN,2FONGMAN,1bp dq,2bl,2bo,2s,2au,2ay,2et,2av,2ap,2ci",
   "1gt ANGKHANKHU,2KHOMUT,=E81,0LAO a KO,2KHO SUNG,=E84,3TAM,=E86,2PALI GHA,2NGO,2CO,2PALI jy",
   "2SO TAM,=E8C,2PALI JHA,2NYO,2PALI kb,3TTA,3ii,3DDA,3io,3NNA,2DO,2TO,2THO SUNG,3TAM,2PALI DHA",
   "2NO,2BO,2PO,2PHO SUNG,2FO TAM,2PHO TAM,2FO SUNG,2PALI BHA,2MO,2YO,2LO LING,=EA5,3LOOT,=EA7,2WO",
   "2SANSKRIT je,3SSA,2SO SUNG,2HO SUNG,2PALI LLA,2O,2HO TAM,1ELLIPSIS,1bn h A,3MAI KAN,3AA,3AM,3I",
   "3II,3Y,3YY,3U,3UU,1h PALI ej,1bn h MAI KON,1SEMIVOWEL h LO,3NYO,=EC0,1bn h E,3EI,3O,3AY,3AI",
   "=EC6,1KO LA,=EC8,1ew MAI EK,3THO,3TI,3CATAWA,1CANCELLATION ah,1NIGGAHITA,1YAMAKKAN,=ED0,1bp dq",
   "2bl,2bo,2s,2au,2ay,2et,2av,2ap,2ci,=EDC,1HO NO,2MO,1a KHMU GO,3NYO,=F00,0TIBETAN hp OM",
   "1ah GTER YIG MGO TRUNCATED A,5-UM RNAM BCAD MA,6GTER TSHEG MA,2u YIG MGO MDUN MA",
   "2CLOSING YIG MGO SGAB MA,2CARET YIG MGO PHUR SHAD MA,2YIG MGO TSHEG SHAD MA,2SBRUL SHAD",
   "2BSKUR YIG MGO,2BKA- SHOG YIG MGO,2INTERSYLLABIC TSHEG,2DELIMITER TSHEG BSTAR,2SHAD,2NYIS SHAD",
   "2TSHEG SHAD,2NYIS TSHEG SHAD,2RIN CHEN SPUNGS SHAD,2RGYA GRAM SHAD",
   "2CARET -DZUD RTAGS ME eu CAN,2GTER TSHEG,1LOGOTYPE h CHAD RTAGS,3LHAG RTAGS",
   "1ASTROLOGICAL h SGRA GCAN -CHAR RTAGS,3-KHYUD PA,3SDONG TSHUGS,1h RDEL DKAR GCIG,4GNYIS,4GSUM",
   "3NAG GCIG,4GNYIS,3DKAR RDEL NAG,1bp dq,2bl,2bo,2s,2au,2ay,2et,2av,2ap,2ci,2bg bl,3bo,3s,3au",
   "3ay,3et,3av,3ap,3ci,3dq,1ah BSDUS RTAGS,2NGAS BZUNG NYI ZLA,2CARET -DZUD RTAGS BZHI MIG CAN",
   "2NGAS BZUNG SGOR RTAGS,2CHE MGO,2TSA -PHRU,2GUG RTAGS GYON,4GYAS,2ANG KHANG GYON,4GYAS",
   "1h YAR TSHES,2MAR TSHES,1a KA,2ka,2GA,2GHA,2jd,2CA,2jy,2JA,=F49,2kb,2TTA,2ii,2DDA,2io,2NNA,2TA",
   "2kp,2DA,2DHA,2NA,2PA,2PHA,2BA,2BHA,2MA,2TSA,2TSHA,2DZA,2DZHA,2WA,2ZHA,2ZA,2-A,2YA,2RA,2LA,2je",
   "2SSA,2SA,2HA,2A,2KSSA,2FIXED-FORM RA,2KKA,2RRA,=F71,1bn h AA,3I,3II,3U,3UU,3bz R,4RR,4L,4LL,3E",
   "3EE,3O,3OO,1h RJES SU jd RO,2RNAM BCAD,1bn h as I,4II,1h NYI ZLA NAA DA,2SNA LDAN,1ah HALANTA",
   "2PALUTA,1h LCI RTAGS,2YANG RTAGS,2LCE TSA CAN,2MCHU CAN,2GRU CAN RGYINGS,3MED RGYINGS",
   "2bc MCHU CAN,1SUBJOINED h LCE TSA CAN,3MCHU CAN,3bc MCHU CAN,2a KA,3ka,3GA,3GHA,3jd,3CA,3jy",
   "3JA,=F99,3kb,3TTA,3ii,3DDA,3io,3NNA,3TA,3kp,3DA,3DHA,3NA,3PA,3PHA,3BA,3BHA,3MA,3TSA,3TSHA,3DZA",
   "3DZHA,3WA,3ZHA,3ZA,3-A,3YA,3RA,3LA,3je,3SSA,3SA,3HA,3A,3KSSA,3FIXED-FORM WA,4YA,4RA,=FBE",
   "1KU RU ka,4BZHI MIG CAN,1CANTILLATION h am BEAT,3bq BEAT,3CANG TE-U,3SBUB -CHAL,1y DRIL BU",
   "2RDO RJE,2PADMA GDAN,2RDO RJE RGYA GRAM,2PHUR PA,2NOR BU,4NYIS -KHYIL,4GSUM -KHYIL",
   "4BZHI -KHYIL,=FCE,1h RDEL NAG RDEL DKAR,4GSUM,1ah BSKA- SHOG GI MGO RGYAN",
   "2MNYAM YIG GI MGO RGYAN,2NYIS TSHEG,2u BRDA RNYING YIG MGO MDUN MA",
   "2CLOSING BRDA RNYING YIG MGO SGAB MA,0fu SVASTI h,0gi SVASTI h,0fu SVASTI h b cy",
   "0gi SVASTI h b cy,0TIBETAN ah LEADING MCHAN RTAGS,2TRAILING MCHAN RTAGS"]

/-- Letters from Myanmar to Ethiopia, Cherokee and Canadian syllables. -/
def asianNames : List String :=
  ["=1000,0MYANMAR a KA,2ka,2GA,2GHA,2jd,2CA,2jy,2JA,2JHA,2kb,2NNYA,2TTA,2ii,2DDA,2io,2NNA,2TA,2kp",
   "2DA,2DHA,2NA,2PA,2PHA,2BA,2BHA,2MA,2YA,2RA,2LA,2WA,2SA,2HA,2LLA,2A,2SHAN A,2I,2II,2U,2UU,2E",
   "2MON E,2O,2AU,1bn h TALL AA,3AA,3I,3II,3U,3UU,3E,3AI,3MON II,4O,3E i,1h bt,2cg o,2dw,2ej,2ASAT",
   "1eb h bk YA,4RA,4WA,4HA,1a GREAT SA,1bp dq,2bl,2bo,2s,2au,2ay,2et,2av,2ap,2ci,1h dh fl,2fl",
   "1y LOCATIVE,2COMPLETED,2AFOREMENTIONED,2GENITIVE,1a je,2SSA,2bz R,3RR,3L,3LL,1bn h bz R,4RR,4L",
   "4LL,1a MON jd,3JHA,3BBA,3BBE,1eb h MON bk NA,5MA,5LA,1a SGAW KAREN je,1bn h SGAW KAREN EU",
   "1ew ah SGAW KAREN HATHI,5KE PHO,1a WESTERN PWO KAREN kp,5PWA,1bn h WESTERN PWO KAREN EU,6UE",
   "1h WESTERN PWO KAREN TONE-1,5TONE-2,5TONE-3,5TONE-4,5TONE-5,1a EASTERN PWO KAREN NNA,5YWA",
   "5GHWA,1bn h GEBA KAREN I,3KAYAH OE,4U,4EE,1a SHAN KA,3ka,3GA,3CA,3ZA,3kb,3DA,3NA,3PHA,3FA,3BA",
   "3kp,3HA,1eb h SHAN bk WA,1bn h SHAN AA,4E,5i,4q Y,1h SHAN TONE-2,3TONE-3,3TONE-5,3TONE-6",
   "3COUNCIL TONE-2,4TONE-3,4EMPHATIC ew,1a RUMAI PALAUNG FA,1h RUMAI PALAUNG TONE-5,1SHAN bp dq",
   "3bl,3bo,3s,3au,3ay,3et,3av,3ap,3ci,1h KHAMTI TONE-1,3TONE-3,1bn h AITON A,4AI,1y SHAN bl,3dd",
   "0GEORGIAN c a AN,3BAN,3GAN,3DON,3EN,3VIN,3ZEN,3TAN,3IN,3KAN,3LAS,3MAN,3NAR,3ON,3PAR,3ZHAR,3RAE",
   "3SAN,3TAR,3UN,3PHAR,3KHAR,3GHAN,3QAR,3SHIN,3CHIN,3CAN,3JIL,3CIL,3CHAR,3XAN,3JHAN,3HAE,3HE,3HIE",
   "3WE,3HAR,3HOE,=10C7,3YN,=10CD,3AEN,=10D0,1a AN,2BAN,2GAN,2DON,2EN,2VIN,2ZEN,2TAN,2IN,2KAN,2LAS",
   "2MAN,2NAR,2ON,2PAR,2ZHAR,2RAE,2SAN,2TAR,2UN,2PHAR,2KHAR,2GHAN,2QAR,2SHIN,2CHIN,2CAN,2JIL,2CIL",
   "2CHAR,2XAN,2JHAN,2HAE,2HE,2HIE,2WE,2HAR,2HOE,2FI,2YN,2ELIFI,2bs GAN,2AIN,1PARAGRAPH dj",
   "0ds a GEORGIAN NAR,0GEORGIAN a AEN,2HARD h,2LABIAL h,0HANGUL CHOSEONG KIYEOK,2SSANGKIYEOK",
   "2NIEUN,2TIKEUT,2SSANGTIKEUT,2RIEUL,2MIEUM,2PIEUP,2SSANGPIEUP,2SIOS,2SSANGSIOS,2IEUNG,2CIEUC",
   "2SSANGCIEUC,2CHIEUCH,2KHIEUKH,2THIEUTH,2PHIEUPH,2HIEUH,2NIEUN-KIYEOK,2SSANGNIEUN,2NIEUN-TIKEUT",
   "2NIEUN-PIEUP,2TIKEUT-KIYEOK,2RIEUL-NIEUN,2SSANGRIEUL,2RIEUL-HIEUH,2KAPYEOUNRIEUL,2MIEUM-PIEUP",
   "2KAPYEOUNMIEUM,2PIEUP-KIYEOK,2PIEUP-NIEUN,2PIEUP-TIKEUT,2PIEUP-SIOS,2PIEUP-SIOS-KIYEOK",
   "2PIEUP-SIOS-TIKEUT,2PIEUP-SIOS-PIEUP,2PIEUP-SSANGSIOS,2PIEUP-SIOS-CIEUC,2PIEUP-CIEUC",
   "2PIEUP-CHIEUCH,2PIEUP-THIEUTH,2PIEUP-PHIEUPH,2KAPYEOUNPIEUP,2KAPYEOUNSSANGPIEUP,2SIOS-KIYEOK",
   "2SIOS-NIEUN,2SIOS-TIKEUT,2SIOS-RIEUL,2SIOS-MIEUM,2SIOS-PIEUP,2SIOS-PIEUP-KIYEOK",
   "2SIOS-SSANGSIOS,2SIOS-IEUNG,2SIOS-CIEUC,2SIOS-CHIEUCH,2SIOS-KHIEUKH,2SIOS-THIEUTH",
   "2SIOS-PHIEUPH,2SIOS-HIEUH,2CHITUEUMSIOS,2CHITUEUMSSANGSIOS,2CEONGCHIEUMSIOS",
   "2CEONGCHIEUMSSANGSIOS,2PANSIOS,2IEUNG-KIYEOK,2IEUNG-TIKEUT,2IEUNG-MIEUM,2IEUNG-PIEUP",
   "2IEUNG-SIOS,2IEUNG-PANSIOS,2SSANGIEUNG,2IEUNG-CIEUC,2IEUNG-CHIEUCH,2IEUNG-THIEUTH",
   "2IEUNG-PHIEUPH,2YESIEUNG,2CIEUC-IEUNG,2CHITUEUMCIEUC,2CHITUEUMSSANGCIEUC,2CEONGCHIEUMCIEUC",
   "2CEONGCHIEUMSSANGCIEUC,2CHIEUCH-KHIEUKH,2CHIEUCH-HIEUH,2CHITUEUMCHIEUCH,2CEONGCHIEUMCHIEUCH",
   "2PHIEUPH-PIEUP,2KAPYEOUNPHIEUPH,2SSANGHIEUH,2YEORINHIEUH,2KIYEOK-TIKEUT,2NIEUN-SIOS",
   "2NIEUN-CIEUC,2NIEUN-HIEUH,2TIKEUT-RIEUL,2FILLER,1JUNGSEONG FILLER,2A,2AE,2YA,2YAE,2EO,2E,2YEO",
   "2YE,2O,2WA,2WAE,2OE,2YO,2U,2WEO,2WE,2WI,2YU,2EU,2YI,2I,2A-O,2A-U,2YA-O,2YA-YO,2EO-O,2EO-U",
   "2EO-EU,2YEO-O,2YEO-U,2O-EO,2O-E,2O-YE,2O-O,2O-U,2YO-YA,2YO-YAE,2YO-YEO,2YO-O,2YO-I,2U-A,2U-AE",
   "2U-EO-EU,2U-YE,2U-U,2YU-A,2YU-EO,2YU-E,2YU-YEO,2YU-YE,2YU-U,2YU-I,2EU-U,2EU-EU,2YI-U,2I-A",
   "2I-YA,2I-O,2I-U,2I-EU,2I-ARAEA,2ARAEA,2ARAEA-EO,2ARAEA-U,2ARAEA-I,2SSANGARAEA,2A-EU,2YA-U",
   "2YEO-YA,2O-YA,2O-YAE,1JONGSEONG KIYEOK,2SSANGKIYEOK,2KIYEOK-SIOS,2NIEUN,2NIEUN-CIEUC",
   "2NIEUN-HIEUH,2TIKEUT,2RIEUL,2RIEUL-KIYEOK,2RIEUL-MIEUM,2RIEUL-PIEUP,2RIEUL-SIOS,2RIEUL-THIEUTH",
   "2RIEUL-PHIEUPH,2RIEUL-HIEUH,2MIEUM,2PIEUP,2PIEUP-SIOS,2SIOS,2SSANGSIOS,2IEUNG,2CIEUC,2CHIEUCH",
   "2KHIEUKH,2THIEUTH,2PHIEUPH,2HIEUH,2KIYEOK-RIEUL,2KIYEOK-SIOS-KIYEOK,2NIEUN-KIYEOK",
   "2NIEUN-TIKEUT,2NIEUN-SIOS,2NIEUN-PANSIOS,2NIEUN-THIEUTH,2TIKEUT-KIYEOK,2TIKEUT-RIEUL",
   "2RIEUL-KIYEOK-SIOS,2RIEUL-NIEUN,2RIEUL-TIKEUT,2RIEUL-TIKEUT-HIEUH,2SSANGRIEUL",
   "2RIEUL-MIEUM-KIYEOK,2RIEUL-MIEUM-SIOS,2RIEUL-PIEUP-SIOS,2RIEUL-PIEUP-HIEUH",
   "2RIEUL-KAPYEOUNPIEUP,2RIEUL-SSANGSIOS,2RIEUL-PANSIOS,2RIEUL-KHIEUKH,2RIEUL-YEORINHIEUH",
   "2MIEUM-KIYEOK,2MIEUM-RIEUL,2MIEUM-PIEUP,2MIEUM-SIOS,2MIEUM-SSANGSIOS,2MIEUM-PANSIOS",
   "2MIEUM-CHIEUCH,2MIEUM-HIEUH,2KAPYEOUNMIEUM,2PIEUP-RIEUL,2PIEUP-PHIEUPH,2PIEUP-HIEUH",
   "2KAPYEOUNPIEUP,2SIOS-KIYEOK,2SIOS-TIKEUT,2SIOS-RIEUL,2SIOS-PIEUP,2PANSIOS,2IEUNG-KIYEOK",
   "2IEUNG-SSANGKIYEOK,2SSANGIEUNG,2IEUNG-KHIEUKH,2YESIEUNG,2YESIEUNG-SIOS,2YESIEUNG-PANSIOS",
   "2PHIEUPH-PIEUP,2KAPYEOUNPHIEUPH,2HIEUH-NIEUN,2HIEUH-RIEUL,2HIEUH-MIEUM,2HIEUH-PIEUP",
   "2YEORINHIEUH,2KIYEOK-NIEUN,2KIYEOK-PIEUP,2KIYEOK-CHIEUCH,2KIYEOK-KHIEUKH,2KIYEOK-HIEUH",
   "2SSANGNIEUN,0ETHIOPIC hp HA,2HU,2HI,2HAA,2HEE,2HE,2HO,2HOA,2LA,2LU,2LI,2LAA,2LEE,2LE,2LO,2LWA",
   "2HHA,2HHU,2HHI,2HHAA,2HHEE,2HHE,2HHO,2HHWA,2MA,2MU,2MI,2MAA,2MEE,2ME,2MO,2MWA,2SZA,2SZU,2SZI",
   "2SZAA,2SZEE,2SZE,2SZO,2SZWA,2RA,2RU,2RI,2RAA,2REE,2RE,2RO,2RWA,2SA,2SU,2SI,2SAA,2SEE,2SE,2SO",
   "2SWA,2je,2SHU,2SHI,2SHAA,2SHEE,2SHE,2SHO,2SHWA,2QA,2QU,2QI,2QAA,2QEE,2QE,2QO,2QOA,2QWA,=124A",
   "2QWI,2QWAA,2QWEE,2QWE,=1250,2QHA,2QHU,2QHI,2QHAA,2QHEE,2QHE,2QHO,=1258,2QHWA,=125A,2QHWI",
   "2QHWAA,2QHWEE,2QHWE,=1260,2BA,2BU,2BI,2BAA,2BEE,2BE,2BO,2BWA,2VA,2VU,2VI,2VAA,2VEE,2VE,2VO",
   "2VWA,2TA,2TU,2TI,2TAA,2TEE,2TE,2TO,2TWA,2CA,2CU,2CI,2CAA,2CEE,2CE,2CO,2CWA,2XA,2XU,2XI,2XAA",
   "2XEE,2XE,2XO,2XOA,2XWA,=128A,2XWI,2XWAA,2XWEE,2XWE,=1290,2NA,2NU,2NI,2NAA,2NEE,2NE,2NO,2NWA",
   "2kb,2NYU,2NYI,2NYAA,2NYEE,2NYE,2NYO,2NYWA,2ga A,3U,3I,3AA,3EE,3E,3O,3WA,2KA,2KU,2KI,2KAA,2KEE",
   "2KE,2KO,2KOA,2KWA,=12B2,2KWI,2KWAA,2KWEE,2KWE,=12B8,2KXA,2KXU,2KXI,2KXAA,2KXEE,2KXE,2KXO,=12C0",
   "2KXWA,=12C2,2KXWI,2KXWAA,2KXWEE,2KXWE,=12C8,2WA,2WU,2WI,2WAA,2WEE,2WE,2WO,2WOA,2PHARYNGEAL A",
   "3U,3I,3AA,3EE,3E,3O,=12D8,2ZA,2ZU,2ZI,2ZAA,2ZEE,2ZE,2ZO,2ZWA,2ZHA,2ZHU,2ZHI,2ZHAA,2ZHEE,2ZHE",
   "2ZHO,2ZHWA,2YA,2YU,2YI,2YAA,2YEE,2YE,2YO,2YOA,2DA,2DU,2DI,2DAA,2DEE,2DE,2DO,2DWA,2DDA,2DDU",
   "2DDI,2DDAA,2DDEE,2DDE,2DDO,2DDWA,2JA,2JU,2JI,2JAA,2JEE,2JE,2JO,2JWA,2GA,2GU,2GI,2GAA,2GEE,2GE",
   "2GO,2GOA,2GWA,=1312,2GWI,2GWAA,2GWEE,2GWE,=1318,2GGA,2GGU,2GGI,2GGAA,2GGEE,2GGE,2GGO,2GGWAA",
   "2kp,2THU,2THI,2THAA,2THEE,2THE,2THO,2THWA,2jy,2CHU,2CHI,2CHAA,2CHEE,2CHE,2CHO,2CHWA,2PHA,2PHU",
   "2PHI,2PHAA,2PHEE,2PHE,2PHO,2PHWA,2TSA,2TSU,2TSI,2TSAA,2TSEE,2TSE,2TSO,2TSWA,2TZA,2TZU,2TZI",
   "2TZAA,2TZEE,2TZE,2TZO,2TZOA,2FA,2FU,2FI,2FAA,2FEE,2FE,2FO,2FWA,2PA,2PU,2PI,2PAA,2PEE,2PE,2PO",
   "2PWA,2RYA,2MYA,2FYA,=135D,1ch GEMINATION p bn kg ah,2bn kg ah,2GEMINATION ah,1fl ah,1WORDSPACE",
   "1hm fk,1ed,1ji,1ia,1PREFACE ia,1en ah,1PARAGRAPH dj,1bp bl,2bo,2s,2au,2ay,2et,2av,2ap,2ci",
   "1cx iu,2ey,2it,2FORTY,2hv,2SIXTY,2er,2EIGHTY,2fi,2ac,2iu ad,=1380,1hp SEBATBEIT MWA,2MWI,2MWEE",
   "2MWE,2SEBATBEIT BWA,2BWI,2BWEE,2BWE,2SEBATBEIT FWA,2FWI,2FWEE,2FWE,2SEBATBEIT PWA,2PWI,2PWEE",
   "2PWE,1TONAL ah YIZET,3DERET,3RIKRIK,3ev RIKRIK,3DIFAT,3KENAT,3CHIRET,3HIDET,3DERET-HIDET,3KURT",
   "=13A0,0CHEROKEE a A,2E,2I,2O,2U,2V,2GA,2KA,2GE,2GI,2GO,2GU,2GV,2HA,2HE,2HI,2HO,2HU,2HV,2LA,2LE",
   "2LI,2LO,2LU,2LV,2MA,2ME,2MI,2MO,2MU,2NA,2HNA,2NAH,2NE,2NI,2NO,2NU,2NV,2QUA,2QUE,2QUI,2QUO,2QUU",
   "2QUV,2SA,2S,2SE,2SI,2SO,2SU,2SV,2DA,2TA,2DE,2TE,2DI,2TI,2DO,2DU,2DV,2DLA,2TLA,2TLE,2TLI,2TLO",
   "2TLU,2TLV,2TSA,2TSE,2TSI,2TSO,2TSU,2TSV,2WA,2WE,2WI,2WO,2WU,2WV,2YA,2YE,2YI,2YO,2YU,2YV,2MV",
   "=13F8,1d a YE,3YI,3YO,3YU,3YV,3MV,=1400,0CANADIAN SYLLABICS HYPHEN,2E,2AAI,2I,2II,2O,2OO",
   "2Y-CREE OO,2CARRIER EE,3I,2A,2AA,2WE,2aj WE,2WI,2aj WI,2WII,2aj WII,2WO,2aj WO,2WOO,2aj WOO",
   "2NASKAPI WOO,2WA,2aj WA,2WAA,2aj WAA,2NASKAPI WAA,2AI,2Y-CREE W,2ga fk,2q co,3dl,3di bg do",
   "3kr bg do,3g bg do,3do,3m co,4ev n STROKES,3aa cg,3ev t v,3cj,3cq kn,2EN,2IN,2ON,2AN,2PE,2PAAI",
   "2PI,2PII,2PO,2POO,2Y-CREE POO,2CARRIER HEE,3HI,2PA,2PAA,2PWE,2aj PWE,2PWI,2aj PWI,2PWII",
   "2aj PWII,2PWO,2aj PWO,2PWOO,2aj PWOO,2PWA,2aj PWA,2PWAA,2aj PWAA,2Y-CREE PWAA,2P,2aj P",
   "2CARRIER H,2TE,2TAAI,2TI,2TII,2TO,2TOO,2Y-CREE TOO,2CARRIER DEE,3DI,2TA,2TAA,2TWE,2aj TWE,2TWI",
   "2aj TWI,2TWII,2aj TWII,2bo,2aj bo,2TWOO,2aj TWOO,2TWA,2aj TWA,2TWAA,2aj TWAA,2NASKAPI TWAA,2T",
   "2TTE,2TTI,2TTO,2TTA,2KE,2KAAI,2KI,2KII,2KO,2KOO,2Y-CREE KOO,2KA,2KAA,2KWE,2aj KWE,2KWI,2aj KWI",
   "2KWII,2aj KWII,2KWO,2aj KWO,2KWOO,2aj KWOO,2KWA,2aj KWA,2KWAA,2aj KWAA,2NASKAPI KWAA,2K,2KW",
   "2SOUTH-SLAVEY KEH,3KIH,3KOH,3KAH,2CE,2CAAI,2CI,2CII,2CO,2COO,2Y-CREE COO,2CA,2CAA,2CWE,2aj CWE",
   "2CWI,2aj CWI,2CWII,2aj CWII,2CWO,2aj CWO,2CWOO,2aj CWOO,2CWA,2aj CWA,2CWAA,2aj CWAA",
   "2NASKAPI CWAA,2C,2SAYISI TH,2ME,2MAAI,2MI,2MII,2MO,2MOO,2Y-CREE MOO,2MA,2MAA,2MWE,2aj MWE,2MWI",
   "2aj MWI,2MWII,2aj MWII,2MWO,2aj MWO,2MWOO,2aj MWOO,2MWA,2aj MWA,2MWAA,2aj MWAA,2NASKAPI MWAA",
   "2M,2aj M,2MH,2ATHAPASCAN M,2SAYISI M,2NE,2NAAI,2NI,2NII,2NO,2NOO,2Y-CREE NOO,2NA,2NAA,2NWE",
   "2aj NWE,2NWA,2aj NWA,2NWAA,2aj NWAA,2NASKAPI NWAA,2N,2CARRIER NG,2NH,2LE,2LAAI,2LI,2LII,2LO",
   "2LOO,2Y-CREE LOO,2LA,2LAA,2LWE,2aj LWE,2LWI,2aj LWI,2LWII,2aj LWII,2LWO,2aj LWO,2LWOO,2aj LWOO",
   "2LWA,2aj LWA,2LWAA,2aj LWAA,2L,2aj L,2bk L,2SE,2SAAI,2SI,2SII,2SO,2SOO,2Y-CREE SOO,2SA,2SAA",
   "2SWE,2aj SWE,2SWI,2aj SWI,2SWII,2aj SWII,2SWO,2aj SWO,2SWOO,2aj SWOO,2SWA,2aj SWA,2SWAA",
   "2aj SWAA,2NASKAPI SWAA,2S,2ATHAPASCAN S,2SW,2BLACKFOOT S,2MOOSE-CREE SK,2NASKAPI SKW,3S-W",
   "3SPWA,3STWA,3SKWA,3SCWA,2SHE,2SHI,2SHII,2SHO,2SHOO,2je,2SHAA,2SHWE,2aj SHWE,2SHWI,2aj SHWI",
   "2SHWII,2aj SHWII,2SHWO,2aj SHWO,2SHWOO,2aj SHWOO,2SHWA,2aj SHWA,2SHWAA,2aj SHWAA,2SH,2YE,2YAAI",
   "2YI,2YII,2YO,2YOO,2Y-CREE YOO,2YA,2YAA,2YWE,2aj YWE,2YWI,2aj YWI,2YWII,2aj YWII,2YWO,2aj YWO",
   "2YWOO,2aj YWOO,2YWA,2aj YWA,2YWAA,2aj YWAA,2NASKAPI YWAA,2Y,2BIBLE-CREE Y,2aj Y,2SAYISI YI,2RE",
   "2R-CREE RE,2aj LE,2RAAI,2RI,2RII,2RO,2ROO,2aj LO,2RA,2RAA,2aj LA,2RWAA,2aj RWAA,2R,2aj R,2bk R",
   "2FE,2FAAI,2FI,2FII,2FO,2FOO,2FA,2FAA,2FWAA,2aj FWAA,2F,2THE,2N-CREE THE,2THI,2N-CREE THI,2THII",
   "2N-CREE THII,2THO,2THOO,2kp,2THAA,2THWAA,2aj THWAA,2TH,2TTHE,2TTHI,2TTHO,2ii,2TTH,2TYE,2TYI",
   "2TYO,2TYA,2NUNAVIK HE,3HI,3HII,3HO,3HOO,3HA,3HAA,3H,2NUNAVUT H,2HK,2QAAI,2QI,2QII,2QO,2QOO,2QA",
   "2QAA,2Q,2TLHE,2TLHI,2TLHO,2TLHA,2aj RE,3RI,3RO,3RA,2NGAAI,2NGI,2NGII,2NGO,2NGOO,2jd,2NGAA,2NG",
   "2NNG,2SAYISI SHE,3SHI,3SHO,3je,2WOODS-CREE THE,3THI,3THO,3kp,3TH,2LHI,2LHII,2LHO,2LHOO,2LHA",
   "2LHAA,2LH,2TH-CREE THE,3THI,3THII,3THO,3THOO,3kp,3THAA,3TH,2AIVILIK B,2BLACKFOOT E,3I,3O,3A",
   "3WE,3WI,3WO,3WA,3NE,3NI,3NO,3NA,3KE,3KI,3KO,3KA,2SAYISI HE,3HI,3HO,3HA,2CARRIER GHU,3GHO,3GHE",
   "3GHEE,3GHI,3GHA,3RU,3RO,3RE,3REE,3RI,3RA,3WU,3WO,3WE,3WEE,3WI,3WA,3HWU,3HWO,3HWE,3HWEE,3HWI",
   "3HWA,3THU,3THO,3THE,3THEE,3THI,3kp,3TTU,3TTO,3TTE,3TTEE,3TTI,3TTA,3PU,3PO,3PE,3PEE,3PI,3PA,3P",
   "3GU,3GO,3GE,3GEE,3GI,3GA,3KHU,3KHO,3KHE,3KHEE,3KHI,3ka,3KKU,3KKO,3KKE,3KKEE,3KKI,3KKA,3KK,3NU",
   "3NO,3NE,3NEE,3NI,3NA,3MU,3MO,3ME,3MEE,3MI,3MA,3YU,3YO,3YE,3YEE,3YI,3YA,3JU,2SAYISI JU",
   "2CARRIER JO,3JE,3JEE,3JI,2SAYISI JI,2CARRIER JA,3JJU,3JJO,3JJE,3JJEE,3JJI,3JJA,3LU,3LO,3LE",
   "3LEE,3LI,3LA,3DLU,3DLO,3DLE,3DLEE,3DLI,3DLA,3LHU,3LHO,3LHE,3LHEE,3LHI,3LHA,3TLHU,3TLHO,3TLHE",
   "3TLHEE,3TLHI,3TLHA,3TLU,3TLO,3TLE,3TLEE,3TLI,3TLA,3ZU,3ZO,3ZE,3ZEE,3ZI,3ZA,3Z,3u Z,3DZU,3DZO",
   "3DZE,3DZEE,3DZI,3DZA,3SU,3SO,3SE,3SEE,3SI,3SA,3SHU,3SHO,3SHE,3SHEE,3SHI,3je,3SH,3TSU,3TSO,3TSE",
   "3TSEE,3TSI,3TSA,3CHU,3CHO,3CHE,3CHEE,3CHI,3jy,3TTSU,3TTSO,3TTSE,3TTSEE,3TTSI,3TTSA,2CHI h",
   "2hm fk,2QAI,2NGAI,2NNGI,2NNGII,2NNGO,2NNGOO,2NNGA,2NNGAA,2WOODS-CREE THWEE,3THWI,3THWII,3THWO",
   "3THWOO,3THWA,3THWAA,3q TH,2BLACKFOOT W,0OGHAM km ah,1a BEITH,2LUIS,2FEARN,2SAIL,2NION,2UATH",
   "2DAIR,2TINNE,2COLL,2CEIRT,2MUIN,2GORT,2NGEADAL,2STRAIF,2RUIS,2AILM,2ONN,2UR,2EADHADH,2IODHADH",
   "2EABHADH,2OR,2UILLEANN,2IFIN,2EAMHANCHOLL,2PEITH,1FEATHER ah,1as FEATHER ah,=16A0",
   "0RUNIC a FEHU FEOH FE F,2V,2URUZ UR U,2YR,2Y,2W,2THURISAZ THURS THORN,2ETH,2ANSUZ A,2OS O",
   "2AC A,2AESC,2LONG-BRANCH-OSS O,2SHORT-TWIG-OSS O,2O,2OE,2ON,2RAIDO RAD REID R,2KAUNA,2CEN",
   "2KAUN K,2G,2ENG,2GEBO GYFU G,2GAR,2WUNJO WYNN W,2HAGLAZ H,2HAEGL H,2LONG-BRANCH-HAGALL H",
   "2SHORT-TWIG-HAGALL H,2NAUDIZ NYD NAUD N,2SHORT-TWIG-NAUD N,2DOTTED-N,2ISAZ IS ISS I,2E",
   "2JERAN J,2GER,2LONG-BRANCH-AR AE,2SHORT-TWIG-AR A,2IWAZ EOH,2PERTHO PEORTH P,2ALGIZ EOLHX",
   "2SOWILO S,2SIGEL LONG-BRANCH-SOL S,2SHORT-TWIG-SOL S,2C,2Z,2TIWAZ TIR TYR T,2SHORT-TWIG-TYR T",
   "2D,2BERKANAN BEORC BJARKAN B,2SHORT-TWIG-BJARKAN B,2DOTTED-P,2OPEN-P,2EHWAZ EH E,2MANNAZ MAN M",
   "2LONG-BRANCH-MADR M,2SHORT-TWIG-MADR M,2LAUKAZ LAGU LOGR L,2DOTTED-L,2INGWAZ,2ING",
   "2DAGAZ DAEG D,2OTHALAN ETHEL O,2EAR,2IOR,2CWEORTH,2CALC,2CEALC,2STAN,2LONG-BRANCH-YR",
   "2SHORT-TWIG-YR,2ICELANDIC-YR,2Q,2X,1ck be,1js be,1fv be,1ARLAUG y,1TVIMADUR y,1BELGTHOR y,1a K",
   "2SH,2OO,2FRANKS CASKET OS,4IS,4EH,4AC,4AESC"]

/-- Letters from the Philippines on, phonetic and accented letters. -/
def islandNames : List String :=
  ["=1700,0TAGALOG a A,2I,2U,2KA,2GA,2jd,2TA,2DA,2NA,2PA,2BA,2MA,2YA,2RA,2LA,2WA,2SA,2HA,1bn h I",
   "3U,1h ej,2PAMUDPOD,=171F,1a hz RA,0HANUNOO a A,2I,2U,2KA,2GA,2jd,2TA,2DA,2NA,2PA,2BA,2MA,2YA",
   "2RA,2LA,2WA,2SA,2HA,1bn h I,3U,1h PAMUDPOD,0PHILIPPINE ck be,1m be,=1740,0BUHID a A,2I,2U,2KA",
   "2GA,2jd,2TA,2DA,2NA,2PA,2BA,2MA,2YA,2RA,2LA,2WA,2SA,2HA,1bn h I,3U,=1760,0TAGBANWA a A,2I,2U",
   "2KA,2GA,2jd,2TA,2DA,2NA,2PA,2BA,2MA,2YA,=176E,2LA,2WA,2SA,=1772,1bn h I,3U,=1780,0KHMER a KA",
   "2ka,2KO,2KHO,2NGO,2CA,2jy,2CO,2CHO,2NYO,2DA,2ii,2DO,2TTHO,2NNO,2TA,2kp,2TO,2THO,2NO,2BA,2PHA",
   "2PO,2PHO,2MO,2YO,2RO,2LO,2VO,2je,2SSO,2SA,2HA,2LA,2QA,1kz bn QAQ,3QAA,3QI,3QII,3QU,3QUK,3QUU",
   "3QUUV,3RY,3RYY,3LY,3LYY,3QE,3QAI,3QOO TYPE bl,5bo,3QAU,1bn INHERENT AQ,3AA,2h AA,3I,3II,3Y,3YY",
   "3U,3UU,3UA,3OE,3YA,3IE,3E,3AE,3AI,3OO,3AU,1h NIKAHIT,2REAHMUK,2YUUKALEAPINTU,2MUUSIKATOAN",
   "2TRIISAP,2BANTOC,2ROBAT,2TOANDAKHIAT,2KAKABAT,2AHSDA,2SAMYOK SANNYA,2VIRIAM,2COENG,2BATHAMASAT",
   "2KHAN,2BARIYOOSAN,2CAMNUC PII KUUH,2LEK TOO,2BEYYAL,2PHNAEK MUAN,2KOOMUUT,1CURRENCY y RIEL",
   "1h AVAKRAHASANYA,2ATTHACAN,=17E0,1bp dq,2bl,2bo,2s,2au,2ay,2et,2av,2ap,2ci,=17F0",
   "1y LEK ATTAK SON,4MUOY,4PII,4BEI,4BUON,4PRAM,4PRAM-MUOY,4PRAM-PII,4PRAM-BEI,4PRAM-BUON,=1800",
   "0MONGOLIAN BIRGA,1ELLIPSIS,1ed,1hm fk,1ia,1au cy,1TODO SOFT HYPHEN,1SIBE hp BOUNDARY MARKER",
   "1MANCHU ed,2hm fk,1NIRUGU,1FREE VARIATION SELECTOR bl,4bo,4s,1bn dj",
   "1FREE VARIATION SELECTOR au,1bp dq,2bl,2bo,2s,2au,2ay,2et,2av,2ap,2ci,=1820,1a A,2E,2I,2O,2U",
   "2OE,2UE,2EE,2NA,2ANG,2BA,2PA,2QA,2GA,2MA,2LA,2SA,2je,2TA,2DA,2jy,2JA,2YA,2RA,2WA,2FA,2KA,2ka",
   "2TSA,2ZA,2HAA,2ZRA,2LHA,2ZHI,2CHI,2TODO eu bn h,3E,3I,3O,3U,3OE,3UE,3ANG,3BA,3PA,3QA,3GA,3MA",
   "3TA,3DA,3jy,3JA,3TSA,3YA,3WA,3KA,3GAA,3HAA,3JIA,3NIA,3DZA,2SIBE E,3I,3IY,3UE,3U,3ANG,3KA,3GA",
   "3HA,3PA,3je,3TA,3DA,3JA,3FA,3GAA,3HAA,3TSA,3ZA,3RAA,3jy,3ZHA,2MANCHU I,3KA,3RA,3FA,3ZHA",
   "2jy b bo cy,=1880,2ALI GALI bt bl,4dw bl,4DAMARU,4UBADAMA,4bc UBADAMA,4BALUDA,4s BALUDA,4A,4I",
   "4KA,4jd,4CA,4TTA,4ii,4DDA,4NNA,4TA,4DA,4PA,4PHA,4SSA,4ZHA,4ZA,4AH,2TODO ALI GALI TA,5ZHA",
   "2MANCHU ALI GALI GHA,5jd,5CA,5JHA,5TTA,5io,5TA,5DHA,5SSA,5CYA,5ZHA,5ZA,2ALI GALI bg U,5YA",
   "2MANCHU ALI GALI BHA,2ALI GALI DAGALGA,2MANCHU ALI GALI LHA,=18B0,0CANADIAN SYLLABICS OY,2AY",
   "2AAY,2WAY,2POY,2PAY,2PWOY,2TAY,2KAY,2KWAY,2MAY,2NOY,2NAY,2LAY,2SOY,2SAY,2SHOY,2SHAY,2SHWOY",
   "2YOY,2YAY,2RAY,2NWI,2OJIBWAY NWI,2NWII,2OJIBWAY NWII,2NWO,2OJIBWAY NWO,2NWOO,2OJIBWAY NWOO",
   "2RWEE,2RWI,2RWII,2RWO,2RWOO,2RWA,2OJIBWAY P,3T,3K,3C,3M,3N,3S,3SH,2EASTERN W,2WESTERN W",
   "2q d do,3he cg,2R-CREE RWE,2aj LOO,3LAA,2THWE,2THWA,2TTHWE,2TTHOO,2TTHAA,2TLHWE,2TLHOO",
   "2SAYISI SHWE,3SHOO,3HOO,2CARRIER GWU,3DENE GEE,3GAA,3GWA,2SAYISI JUU,2CARRIER JWA",
   "2BEAVER DENE L,4R,2CARRIER DENTAL S,=1900,0LIMBU VOWEL-CARRIER a,1a KA,2ka,2GA,2GHA,2jd,2CA",
   "2jy,2JA,2JHA,2YAN,2TA,2kp,2DA,2DHA,2NA,2PA,2PHA,2BA,2BHA,2MA,2YA,2RA,2LA,2WA,2je,2SSA,2SA,2HA",
   "2GYAN,2TRA,=1920,1bn h A,3I,3U,3EE,3AI,3OO,3AU,3E,3O,1SUBJOINED a YA,3RA,3WA,=1930,1d a KA,3jd",
   "3bt,3TA,3NA,3PA,3MA,3RA,3LA,1h MUKPHRENG,2KEMPHRENG,2SA-I,=1940,2LOO,=1944,1dd ah,1en ah",
   "1bp dq,2bl,2bo,2s,2au,2ay,2et,2av,2ap,2ci,0TAI LE a KA,3XA,3jd,3TSA,3SA,3YA,3TA,3kp,3LA,3PA",
   "3PHA,3MA,3FA,3VA,3HA,3QA,3ka,3TSHA,3NA,3A,3I,3EE,3EH,3U,3OO,3O,3UE,3E,3AUE,3AI,=1970,3TONE-2",
   "3TONE-3,3TONE-4,3TONE-5,3TONE-6,=1980,0NEW TAI LUE a fb QA,4hw QA,4fb KA,5XA,5jd,4hw KA,5XA",
   "5jd,4fb TSA,5SA,5YA,4hw TSA,5SA,5YA,4fb TA,5kp,5NA,4hw TA,5kp,5NA,4fb PA,5PHA,5MA,4hw PA,5PHA",
   "5MA,4fb FA,5VA,5LA,4hw FA,5VA,5LA,4fb HA,5DA,5BA,4hw HA,5DA,5BA,4fb KVA,5XVA,4hw KVA,5XVA",
   "4fb SUA,4hw SUA,=19B0,3bn h bn SHORTENER,5AA,5II,5U,5UU,5E,5AE,5O,5OA,5UE,5AY,5AAY,5UY,5OY",
   "5OAY,5UEY,5IY,3a q V,5NG,5N,5M,5K,5D,5B,3ew MARK-1,4MARK-2,=19D0,3bp dq,4bl,4bo,4s,4au,4ay,4et",
   "4av,4ap,4ci,3THAM bp bl,=19DE,3h LAE,4LAEV,0KHMER y PATHAMASAT,2MUOY KOET,2PII KOET,2BEI KOET",
   "2BUON KOET,2PRAM KOET,2PRAM-MUOY KOET,2PRAM-PII KOET,2PRAM-BEI KOET,2PRAM-BUON KOET,2DAP KOET",
   "2DAP-MUOY KOET,2DAP-PII KOET,2DAP-BEI KOET,2DAP-BUON KOET,2DAP-PRAM KOET,2TUTEYASAT,2MUOY ROC",
   "2PII ROC,2BEI ROC,2BUON ROC,2PRAM ROC,2PRAM-MUOY ROC,2PRAM-PII ROC,2PRAM-BEI ROC",
   "2PRAM-BUON ROC,2DAP ROC,2DAP-MUOY ROC,2DAP-PII ROC,2DAP-BEI ROC,2DAP-BUON ROC,2DAP-PRAM ROC",
   "0BUGINESE a KA,2GA,2jd,2NGKA,2PA,2BA,2MA,2MPA,2TA,2DA,2NA,2NRA,2CA,2JA,2kb,2NYCA,2YA,2RA,2LA",
   "2VA,2SA,2A,2HA,1bn h I,3U,3E,3O,3AE,=1A1E,1PALLAWA,1END OF fl,0TAI THAM a fb KA,4ka,4KXA",
   "3hw KA,4KXA,4ka,3jd,3fb CA,4jy,3hw CA,4SA,4jy,3kb,3RATA,3fb RATHA,3DA,3hw RATHA,3RANA,3fb TA",
   "4kp,3hw TA,4kp,3NA,3BA,3fb PA,4PHA,4FA,3hw PA,4FA,4PHA,3MA,3hw YA,3fb YA,3RA,3RUE,3LA,3LUE,3WA",
   "3fb je,4SSA,4SA,4HA,3LLA,3A,3hw HA,3I,3II,3U,3UU,3EE,3OO,3LAE,3GREAT SA,2eb h bk RA,5LA",
   "4LA TANG LAI,2h MAI KANG LAI,2eb h q jd,4hw PA,4fb RATHA OR hw PA,4MA,4BA,4SA,=1A60,2h SAKOT",
   "2bn h A,4MAI SAT,4AA,4TALL AA,4I,4II,4UE,4UUE,4U,4UU,4O,4OA o,4OY,4E,4AE,4OO,4AI,4THAM AI",
   "4OA i,2h MAI KANG,3TONE-1,3TONE-2,3KHUEN TONE-3,4TONE-4,4TONE-5,3RA HAAM,3MAI SAM",
   "3KHUEN-LUE KARAN,=1A7F,2ch ij cg,2HORA bp dq,4bl,4bo,4s,4au,4ay,4et,4av,4ap,4ci,=1A90",
   "2THAM bp dq,4bl,4bo,4s,4au,4ay,4et,4av,4ap,4ci,=1AA0,2h WIANG,3WIANGWAAK,3SAWAN,3KEOW,3HOY",
   "3DOKMAI,3as cc RANA,3MAI YAMOK,3KAAN,3KAANKUU,3SATKAAN,3SATKAANKUU,3HANG,3CAANG,=1AB0",
   "0ch DOUBLED af fd,1DIAERESIS-RING,1INFINITY,1ab f,1dt cg,1X-X o,1WIGGLY em o,1dv ah o",
   "1m dv ah o,1bq CENTRALIZATION v o,1STRONG CENTRALIZATION v o,1PARENTHESES i,1m PARENTHESES i",
   "1PARENTHESES o,2gr,1ez d a W o,4bs W o,1l bj i l,1g bj i g,1l bj o l,1g bj o g,1al BRACKETS i",
   "1cx h i,1bc m ARCH i,1cj h i,1m cj h i,4o,1dt co fd,1ez d a iq G,5R,5T,=1B00",
   "0BALINESE h ULU RICEM,3lg,2CECEK,2SURANG,2BISAH,1a AKARA,3TEDUNG,2IKARA,3TEDUNG,2UKARA,3TEDUNG",
   "2RA REPA,4TEDUNG,2LA LENGA,4TEDUNG,2EKARA,2AIKARA,2OKARA,3TEDUNG,2KA,3MAHAPRANA,2GA,3GORA,2jd",
   "2CA,3LACA,2JA,3JERA,2kb,2TA LATIK,3MURDA MAHAPRANA,2DA MURDA ALPAPRANA,4MAHAPRANA,2NA RAMBAT",
   "2TA,3TAWA,2DA,3MADU,2NA,2PA,3KAPAL,2BA,3KEMBANG,2MA,2YA,2RA,2LA,2WA,2SA SAGA,3SAPA,3,2HA",
   "1h REREKAN,1bn h TEDUNG,3ULU,4SARI,3SUKU,4ILUT,3RA REPA,5TEDUNG,3LA LENGA,5TEDUNG,3TALING",
   "4REPA,4TEDUNG,4REPA TEDUNG,3PEPET,4TEDUNG,1ADEG ADEG,1a KAF SASAK,2KHOT SASAK,2TZIR SASAK",
   "2EF SASAK,2VE SASAK,2ZAL SASAK,2ASYURA SASAK,2hz JNYA,=1B4E,1bc CARIK SIKI,3PAREREN,1bp dq,2bl",
   "2bo,2s,2au,2ay,2et,2av,2ap,2ci,1PANTI,1PAMADA,1WINDU,1CARIK PAMUNGKAH,2SIKI,2PAREREN,1PAMENENG",
   "1MUSICAL y DONG,3DENG,3DUNG,3DANG,4SURANG,3DING,3DAENG,3DEUNG,3DAING,3DANG GEDE,3ch TEGEH",
   "4ENDEP,4KEMPUL,4KEMPLI,4JEGOGAN,4KEMPUL b JEGOGAN,4KEMPLI b JEGOGAN,4BENDE,4GONG",
   "3RIGHT-HAND dv DUG,5DAG,4el TUK,5TAK,3LEFT-HAND dv PANG,5PUNG,4el PLAK,5PLUK,4dv PING",
   "1PANTI LANTANG,1PAMADA LANTANG,1PANTI BAWAK,0SUNDANESE h PANYECEK,2PANGLAYAR,2PANGWISAD,1a A",
   "2I,2U,2AE,2O,2E,2EU,2KA,2QA,2GA,2jd,2CA,2JA,2ZA,2kb,2TA,2DA,2NA,2PA,2FA,2VA,2BA,2MA,2YA,2RA",
   "2LA,2WA,2SA,2XA,2HA,1eb h PAMINGKAL,3PANYAKRA,3PANYIKU,1bn h PANGHULU,3PANYUKU,3PANAELAENG",
   "3PANOLONG,3PAMEPET,3PANEULEUNG,1h PAMAAEH,2ej,1eb h PASANGAN MA,4WA,1a ka,2SYA,1bp dq,2bl,2bo",
   "2s,2au,2ay,2et,2av,2ap,2ci,1ht,1a REU,2LEU,2BHA,2q K,3M,0BATAK a A,2jb A,2HA,2jb HA",
   "2MANDAILING HA,2BA,2KARO BA,2PA,2jb PA,2NA,2MANDAILING NA,2WA,2jb WA,2PAKPAK WA,2GA,2jb GA,2JA",
   "2DA,2RA,2jb RA,2MA,2jb MA,2SOUTHERN TA,2NORTHERN TA,2SA,2jb SA,2MANDAILING SA,2YA,2jb YA,2jd",
   "2LA,2jb LA,2kb,2CA,2NDA,2MBA,2I,2U,1h TOMPI,1bn h E,3PAKPAK E,3EE,3I,3KARO I,3O,3KARO O,3U",
   "4FOR jb SA,1eb h NG,3H,1PANGOLAT,1PANONGONAN,=1BFC,1y BINDU NA METEK,3PINARBORAS,3JUDUL",
   "3PANGOLAT,0LEPCHA a KA,2KLA,2ka,2GA,2GLA,2jd,2CA,2jy,2JA,2kb,2TA,2kp,2DA,2NA,2PA,2PLA,2PHA,2FA",
   "2FLA,2BA,2BLA,2MA,2MLA,2TSA,2TSHA,2DZA,2YA,2RA,2LA,2HA,2HLA,2VA,2SA,2je,2WA,2A,1SUBJOINED a YA",
   "3RA,1bn h AA,3I,3O,3OO,3U,3UU,3E,1eb h K,3M,3L,3N,3P,3R,3T,3NYIN-DO,3KANG,1h RAN,2jn,=1C3B",
   "1be TA-ROL,2NYET THYOOM TA-ROL,2CER-WA,2TSHOOK CER-WA,3,1bp dq,2bl,2bo,2s,2au,2ay,2et,2av,2ap",
   "2ci,=1C4D,1a TTA,2ii,2DDA,0OL CHIKI bp dq,3bl,3bo,3s,3au,3ay,3et,3av,3ap,3ci,2a LA,3AT,3AG",
   "3ANG,3AL,3LAA,3AAK,3AAJ,3AAM,3AAW,3LI,3IS,3IH,3INY,3IR,3LU,3UC,3UD,3UNN,3UY,3LE,3EP,3EDD,3EN",
   "3ERR,3LO,3OTT,3OB,3OV,3OH,2MU TTUDDAG,2GAAHLAA TTUDDAAG,2MU-GAAHLAA TTUDDAAG,2RELAA,2PHAARKAA",
   "2AHAD,2be MUCAAD,3m MUCAAD,0ho d a ROUNDED VE,3LONG-LEGGED DE,3NARROW O,3WIDE ES,3TALL TE",
   "3THREE-LEGGED TE,3TALL HARD h,4YAT,3UNBLENDED UK,1c a TJE,1d a TJE,=1C90",
   "0GEORGIAN MTAVRULI c a AN,4BAN,4GAN,4DON,4EN,4VIN,4ZEN,4TAN,4IN,4KAN,4LAS,4MAN,4NAR,4ON,4PAR",
   "4ZHAR,4RAE,4SAN,4TAR,4UN,4PHAR,4KHAR,4GHAN,4QAR,4SHIN,4CHIN,4CAN,4JIL,4CIL,4CHAR,4XAN,4JHAN",
   "4HAE,4HE,4HIE,4WE,4HAR,4HOE,4FI,4YN,4ELIFI,4bs GAN,4AIN,=1CBD,4AEN,4HARD h,4LABIAL h",
   "0SUNDANESE be BINDU SURYA,3PANGLONG,3PURNAMA,3CAKRA,3LEU SATANGA,3KA SATANGA,3DA SATANGA",
   "3BA SATANGA,=1CD0,0VEDIC ew KARSHANA,2SHARA,2PRENKHA,1h NIHSHVASA,2YAJURVEDIC MIDLINE SVARITA",
   "1ew YAJURVEDIC AGGRAVATED kz SVARITA,3kz SVARITA,3KATHAKA kz SVARITA,2lg o",
   "2YAJURVEDIC KATHAKA kz SVARITA SCHROEDER,2m SVARITA,2dt SVARITA,2KATHAKA ANUDATTA,2cg o",
   "2bo cy o,2s cy o,2RIGVEDIC KASHMIRI kz SVARITA,2ATHARVAVEDIC kz SVARITA,1h dw SVARITA,3UDATTA",
   "2as dw UDATTA,2dw ANUDATTA,2as dw ANUDATTA,2dw UDATTA b gy,3ANUDATTA b gy,2bt ANTARGOMUKHA",
   "3BAHIRGOMUKHA,3VAMAGOMUKHA,4b gy,2TIRYAK,2HEXIFORM eu bt,2eu bt,2RTHANG eu bt",
   "2bt UBHAYATO MUKHA,2ARDHAVISARGA,2cc ARDHAVISARGA,1ew lg i,1h JIHVAMULIYA,2UPADHMANIYA",
   "2ATIKRAMA,1ew do i,2m do i,1h m bt ANTARGOMUKHA,=1D00,0ez a d c A,4AE,1d a bs AE",
   "1a d c BARRED B,4C,4D,4ETH,4E,1d a bs dv E,4I,1a d c J,4K,4L b v,4M,4as N,4O,4dv O",
   "1d a SIDEWAYS O,4dv O,4O b v,3bs OE,1a d c OU,1d a kr bg O,3di bg O,1a d c P,4as R,4bs R,4T,4U",
   "1d a SIDEWAYS U,4DIAERESIZED U,4bs M,1a d c V,4W,4Z,4EZH,2VOICED LARYNGEAL SPIRANT,2AIN",
   "0jq a d c ky,4LAMDA,4PI,4RHO,4PSI,0ho a d c EL,0ds a c A,3AE,3B,3BARRED B,3D,3E,3as E,3G,3H,3I",
   "3J,3K,3L,3M,3N,3as N,3O,3OU,3P,3R,3T,3U,3W,2d A,3bs A,3hs,3bs AE,3B,3D,3E,3SCHWA,3dv E",
   "3bs dv E,3G,3bs I,3K,3M,3ENG,3O,3dv O,3kr bg O,3di bg O,3P,3T,3U,3SIDEWAYS U,3bs M,3V,3AIN",
   "3BETA,3jq ky,3DELTA,3jq PHI,3CHI,0ez SUBSCRIPT d a I,4R,4U,4V,0jq SUBSCRIPT d a BETA,4ky,4RHO",
   "4PHI,4CHI,0ez d a UE,3B b aa cd,3D b aa cd,3F b aa cd,3M b aa cd,3N b aa cd,3P b aa cd",
   "3R b aa cd,5FISHHOOK p aa cd,3S b aa cd,3T b aa cd,3Z b aa cd,3bs G,0ds a ho EN,0ez d a iq G",
   "3TH b STRIKETHROUGH,2c a I b v,2a lk b v,3P b v,2c a U b v,2a gc b v,3B b ft aw,3D b ft aw",
   "3F b ft aw,3G b ft aw,3K b ft aw,3L b ft aw,3M b ft aw,3N b ft aw,3P b ft aw,3R b ft aw",
   "3S b ft aw,3ESH b ft aw,3V b ft aw,3X b ft aw,3Z b ft aw,3A b cl aw,3hs b cl aw,3D b aw p gy",
   "3E b cl aw,3dv E b cl aw,3as dv E b cl aw,3SCHWA b cl aw,3I b cl aw,3dv O b cl aw,3ESH b cl aw",
   "3U b cl aw,3EZH b cl aw,0ds a d bs hs,3C,4b CURL,3ETH,3as dv E,3F,3ko J b v,3ic G,3bs H,3I b v",
   "3lk,3c I,5b v,3J b ja,3L b cl aw,5ft aw,3c L,3M b aw,3bs M b eu LEG,3N b l aw,5cl aw,3c N",
   "3BARRED O,3PHI,3S b aw,3ESH,3T b ft aw,3U fe,3gc,3c U,3V b aw,3bs V,3Z,4b cl aw,5CURL,3EZH,3jw",
   "0ch fh dl fd,2co fd,1SNAKE o,1SUSPENSION ah,1MACRON-ACUTE,1GRAVE-MACRON,1MACRON-GRAVE",
   "1ACUTE-MACRON,1GRAVE-ACUTE-GRAVE,1ACUTE-GRAVE-ACUTE,1ez d a R o,1BREVE-MACRON,1MACRON-BREVE",
   "1m af i,1OGONEK i,1ZIGZAG o,1IS o,1UR i,1US i,1ez d a FLATTENED dv A i,4AE,4AO,4AV,4C fr,4iq D",
   "4ETH,4G,2a d c G,2d a K,4L,2a d c L,5M,2d a N,2a d c N,5R,2d a R ROTUNDA,4S,4eu S,4Z,4hs,4B",
   "4BETA,4SCHWA,4F,4L b m aa cd,4O b bq CENTRALIZATION v,4P,4ESH,4U b bq CENTRALIZATION v,4W",
   "4A b an,4O b an,4U b an,1UP kn i,1KAVYKA i g,3l,1cg i l,1WIDE bc BRIDGE o,1cg o l,1DELETION ah",
   "1m bc ep o,1ld bx TO o,1l ao i,1g ao p cq ao o,0ez c a A b do o,1d a A b do o,1c a B b cg i",
   "1d a B b cg i,1c a B b cg o,1d a B b cg o,1c a B b em o,1d a B b em o,1c a C b fr p co",
   "1d a C b fr p co,1c a D b cg i,1d a D b cg i,1c a D b cg o,1d a D b cg o,1c a D b em o",
   "1d a D b em o,1c a D b fr,1d a D b fr,1c a D b af o,1d a D b af o,1c a E b cw p dl",
   "1d a E b cw p dl,1c a E b cw p co,1d a E b cw p co,1c a E b af o,1d a E b af o,1c a E b cd o",
   "1d a E b cd o,1c a E b fr p ep,1d a E b fr p ep,1c a F b cg i,1d a F b cg i,1c a G b cw",
   "1d a G b cw,1c a H b cg i,1d a H b cg i,1c a H b cg o,1d a H b cg o,1c a H b an,1d a H b an",
   "1c a H b fr,1d a H b fr,1c a H b ep o,1d a H b ep o,1c a I b cd o,1d a I b cd o",
   "1c a I b an p co,1d a I b an p co,1c a K b co,1d a K b co,1c a K b cg o,1d a K b cg o",
   "1c a K b em o,1d a K b em o,1c a L b cg o,1d a L b cg o,1c a L b cg o p cw,1d a L b cg o p cw",
   "1c a L b em o,1d a L b em o,1c a L b af o,1d a L b af o,1c a M b co,1d a M b co,1c a M b cg i",
   "1d a M b cg i,1c a M b cg o,1d a M b cg o,1c a N b cg i,1d a N b cg i,1c a N b cg o",
   "1d a N b cg o,1c a N b em o,1d a N b em o,1c a N b af o,1d a N b af o,1c a O b cd p co",
   "1d a O b cd p co,1c a O b cd p an,1d a O b cd p an,1c a O b cw p dl,1d a O b cw p dl",
   "1c a O b cw p co,1d a O b cw p co,1c a P b co,1d a P b co,1c a P b cg i,1d a P b cg i",
   "1c a R b cg i,1d a R b cg i,1c a R b cg o,1d a R b cg o,1c a R b cg o p cw,1d a R b cg o p cw",
   "1c a R b em o,1d a R b em o,1c a S b cg i,1d a S b cg i,1c a S b cg o,1d a S b cg o",
   "1c a S b co p cg i,1d a S b co p cg i,1c a S b ge p cg i,1d a S b ge p cg i",
   "1c a S b cg o p cg i,1d a S b cg o p cg i,1c a T b cg i,1d a T b cg i,1c a T b cg o",
   "1d a T b cg o,1c a T b em o,1d a T b em o,1c a T b af o,1d a T b af o,1c a U b an o",
   "1d a U b an o,1c a U b cd o,1d a U b cd o,1c a U b af o,1d a U b af o,1c a U b cd p co",
   "1d a U b cd p co,1c a U b cw p an,1d a U b cw p an,1c a V b cd,1d a V b cd,1c a V b cg o",
   "1d a V b cg o,1c a W b dl,1d a W b dl,1c a W b co,1d a W b co,1c a W b an,1d a W b an",
   "1c a W b cg i,1d a W b cg i,1c a W b cg o,1d a W b cg o,1c a X b cg i,1d a X b cg i",
   "1c a X b an,1d a X b an,1c a Y b cg i,1d a Y b cg i,1c a Z b af,1d a Z b af,1c a Z b cg o",
   "1d a Z b cg o,1c a Z b em o,1d a Z b em o,3H b em o,3T b an,3W b do i,3Y b do i,3A b g bg do",
   "3eu S b cg i,6bu v,6fb v,1c a SHARP S,1d a DELTA,1c a A b cg o,1d a A b cg o,1c a A b aw i",
   "1d a A b aw i,1c a A b af p co,1d a A b af p co,1c a A b af p dl,1d a A b af p dl",
   "1c a A b af p aw i,1d a A b af p aw i,1c a A b af p cd,1d a A b af p cd,1c a A b af p cg o",
   "1d a A b af p cg o,1c a A b ep p co,1d a A b ep p co,1c a A b ep p dl,1d a A b ep p dl",
   "1c a A b ep p aw i,1d a A b ep p aw i,1c a A b ep p cd,1d a A b ep p cd,1c a A b ep p cg o",
   "1d a A b ep p cg o,1c a E b cg o,1d a E b cg o,1c a E b aw i,1d a E b aw i,1c a E b cd",
   "1d a E b cd,1c a E b af p co,1d a E b af p co,1c a E b af p dl,1d a E b af p dl",
   "1c a E b af p aw i,1d a E b af p aw i,1c a E b af p cd,1d a E b af p cd,1c a E b af p cg o",
   "1d a E b af p cg o,1c a I b aw i,1d a I b aw i,1c a I b cg o,1d a I b cg o,1c a O b cg o",
   "1d a O b cg o,1c a O b aw i,1d a O b aw i,1c a O b af p co,1d a O b af p co,1c a O b af p dl",
   "1d a O b af p dl,1c a O b af p aw i,1d a O b af p aw i,1c a O b af p cd,1d a O b af p cd",
   "1c a O b af p cg o,1d a O b af p cg o,1c a O b kf p co,1d a O b kf p co,1c a O b kf p dl",
   "1d a O b kf p dl,1c a O b kf p aw i,1d a O b kf p aw i,1c a O b kf p cd,1d a O b kf p cd",
   "1c a O b kf p cg o,1d a O b kf p cg o,1c a U b cg o,1d a U b cg o,1c a U b aw i,1d a U b aw i",
   "1c a U b kf p co,1d a U b kf p co,1c a U b kf p dl,1d a U b kf p dl,1c a U b kf p aw i",
   "1d a U b kf p aw i,1c a U b kf p cd,1d a U b kf p cd,1c a U b kf p cg o,1d a U b kf p cg o",
   "1c a Y b dl,1d a Y b dl,1c a Y b cg o,1d a Y b cg o,1c a Y b aw i,1d a Y b aw i,1c a Y b cd",
   "1d a Y b cd,1c a MIDDLE-WELSH LL,1d a MIDDLE-WELSH LL,1c a MIDDLE-WELSH V,1d a MIDDLE-WELSH V",
   "1c a Y b LOOP,1d a Y b LOOP,0jq d a hs b dc,5db,5dc p ea,5db p ea,5dc p gk,5db p gk,5dc p bd",
   "5db p bd,1c a hs b dc,5db,5dc p ea,5db p ea,5dc p gk,5db p gk,5dc p bd,5db p bd,1d a gj b dc",
   "5db,5dc p ea,5db p ea,5dc p gk,5db p gk,=1F18,1c a gj b dc,5db,5dc p ea,5db p ea,5dc p gk",
   "5db p gk,=1F20,1d a ETA b dc,5db,5dc p ea,5db p ea,5dc p gk,5db p gk,5dc p bd,5db p bd",
   "1c a ETA b dc,5db,5dc p ea,5db p ea,5dc p gk,5db p gk,5dc p bd,5db p bd,1d a lk b dc,5db",
   "5dc p ea,5db p ea,5dc p gk,5db p gk,5dc p bd,5db p bd,1c a lk b dc,5db,5dc p ea,5db p ea",
   "5dc p gk,5db p gk,5dc p bd,5db p bd,1d a ir b dc,5db,5dc p ea,5db p ea,5dc p gk,5db p gk,=1F48",
   "1c a ir b dc,5db,5dc p ea,5db p ea,5dc p gk,5db p gk,=1F50,1d a gc b dc,5db,5dc p ea,5db p ea",
   "5dc p gk,5db p gk,5dc p bd,5db p bd,=1F59,1c a gc b db,=1F5B,6p ea,=1F5D,7gk,=1F5F,7bd",
   "1d a gw b dc,5db,5dc p ea,5db p ea,5dc p gk,5db p gk,5dc p bd,5db p bd,1c a gw b dc,5db",
   "5dc p ea,5db p ea,5dc p gk,5db p gk,5dc p bd,5db p bd,1d a hs b ea,5gk,3gj b ea,5gk,3ETA b ea",
   "5gk,3lk b ea,5gk,3ir b ea,5gk,3gc b ea,5gk,3gw b ea,5gk,=1F80,3hs b dc p bb,5db p bb",
   "5dc p ea p bb,5db p ea p bb,5dc p gk p bb,5db p gk p bb,5dc p bd p bb,5db p bd p bb",
   "1c a hs b dc p bw,5db p bw,5dc p ea p bw,5db p ea p bw,5dc p gk p bw,5db p gk p bw",
   "5dc p bd p bw,5db p bd p bw,1d a ETA b dc p bb,5db p bb,5dc p ea p bb,5db p ea p bb",
   "5dc p gk p bb,5db p gk p bb,5dc p bd p bb,5db p bd p bb,1c a ETA b dc p bw,5db p bw",
   "5dc p ea p bw,5db p ea p bw,5dc p gk p bw,5db p gk p bw,5dc p bd p bw,5db p bd p bw",
   "1d a gw b dc p bb,5db p bb,5dc p ea p bb,5db p ea p bb,5dc p gk p bb,5db p gk p bb",
   "5dc p bd p bb,5db p bd p bb,1c a gw b dc p bw,5db p bw,5dc p ea p bw,5db p ea p bw",
   "5dc p gk p bw,5db p gk p bw,5dc p bd p bw,5db p bd p bw,1d a hs b VRACHY,5cw,5ea p bb,5bb",
   "5gk p bb,=1FB6,5bd,6p bb,1c a hs b VRACHY,5cw,5ea,5gk,5bw,1KORONIS,1bw,1dc,1bd,1id p bd",
   "1d a ETA b ea p bb,5bb,5gk p bb,=1FC6,5bd,6p bb,1c a gj b ea,5gk,3ETA b ea,5gk,5bw,1dc p ea",
   "3gk,3bd,1d a lk b VRACHY,5cw,5id p ea,7gk,=1FD6,5bd,5id p bd,1c a lk b VRACHY,5cw,5ea,5gk",
   "=1FDD,1db p ea,3gk,3bd,1d a gc b VRACHY,5cw,5id p ea,7gk,3RHO b dc,5db,3gc b bd,5id p bd",
   "1c a gc b VRACHY,5cw,5ea,5gk,3RHO b db,1id p ea,3gk,1ea,=1FF2,1d a gw b ea p bb,5bb,5gk p bb",
   "=1FF6,5bd,6p bb,1c a ir b ea,5gk,3gw b ea,5gk,5bw,1gk,1db"]

end TaintFlow.CharacterName
