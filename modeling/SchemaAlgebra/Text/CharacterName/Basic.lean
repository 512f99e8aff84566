import SchemaAlgebra.Text.CharacterName.Block

/-!
The names of the further characters of the basic plane: syllabic scripts, punctuation, symbols and
presentation forms.
-/

namespace SchemaAlgebra.Text.CharacterName

/-- Names of characters from the code point 4608 to the end of the basic plane. -/
def basicBlocks : List Block :=
  [(4682, ["ETHIOPIC SYLLABLE QWI;2 QWAA;2 QWEE;2 QWE"]),
   (4688, ["ETHIOPIC SYLLABLE QHA;2 QHU;2 QHI;2 QHAA;2 QHEE;2 QHE;2 QHO"]),
   (4696, ["ETHIOPIC SYLLABLE QHWA"]),
   (4698, ["ETHIOPIC SYLLABLE QHWI;2 QHWAA;2 QHWEE;2 QHWE"]),
   (4704,
    ["ETHIOPIC SYLLABLE BA;2 BU;2 BI;2 BAA;2 BEE;2 BE;2 BO;2 BWA;2 VA;2 VU;2 VI;2 VAA;2 VEE",
     "2 VE;2 VO;2 VWA;2 TA;2 TU;2 TI;2 TAA;2 TEE;2 TE;2 TO;2 TWA;2 CA;2 CU;2 CI;2 CAA;2 CEE",
     "2 CE;2 CO;2 CWA;2 XA;2 XU;2 XI;2 XAA;2 XEE;2 XE;2 XO;2 XOA;2 XWA"]),
   (4746, ["ETHIOPIC SYLLABLE XWI;2 XWAA;2 XWEE;2 XWE"]),
   (4752,
    ["ETHIOPIC SYLLABLE NA;2 NU;2 NI;2 NAA;2 NEE;2 NE;2 NO;2 NWA;2 NYA;2 NYU;2 NYI;2 NYAA",
     "2 NYEE;2 NYE;2 NYO;2 NYWA;2 GLOTTAL A;3 U;3 I;3 AA;3 EE;3 E;3 O;3 WA;2 KA;2 KU;2 KI",
     "2 KAA;2 KEE;2 KE;2 KO;2 KOA;2 KWA"]),
   (4786, ["ETHIOPIC SYLLABLE KWI;2 KWAA;2 KWEE;2 KWE"]),
   (4792, ["ETHIOPIC SYLLABLE KXA;2 KXU;2 KXI;2 KXAA;2 KXEE;2 KXE;2 KXO"]),
   (4800, ["ETHIOPIC SYLLABLE KXWA"]),
   (4802, ["ETHIOPIC SYLLABLE KXWI;2 KXWAA;2 KXWEE;2 KXWE"]),
   (4808,
    ["ETHIOPIC SYLLABLE WA;2 WU;2 WI;2 WAA;2 WEE;2 WE;2 WO;2 WOA;2 PHARYNGEAL A;3 U;3 I;3 AA",
     "3 EE;3 E;3 O"]),
   (4824,
    ["ETHIOPIC SYLLABLE ZA;2 ZU;2 ZI;2 ZAA;2 ZEE;2 ZE;2 ZO;2 ZWA;2 ZHA;2 ZHU;2 ZHI;2 ZHAA",
     "2 ZHEE;2 ZHE;2 ZHO;2 ZHWA;2 YA;2 YU;2 YI;2 YAA;2 YEE;2 YE;2 YO;2 YOA;2 DA;2 DU;2 DI",
     "2 DAA;2 DEE;2 DE;2 DO;2 DWA;2 DDA;2 DDU;2 DDI;2 DDAA;2 DDEE;2 DDE;2 DDO;2 DDWA;2 JA;2 JU",
     "2 JI;2 JAA;2 JEE;2 JE;2 JO;2 JWA;2 GA;2 GU;2 GI;2 GAA;2 GEE;2 GE;2 GO;2 GOA;2 GWA"]),
   (4882, ["ETHIOPIC SYLLABLE GWI;2 GWAA;2 GWEE;2 GWE"]),
   (4888,
    ["ETHIOPIC SYLLABLE GGA;2 GGU;2 GGI;2 GGAA;2 GGEE;2 GGE;2 GGO;2 GGWAA;2 THA;2 THU;2 THI",
     "2 THAA;2 THEE;2 THE;2 THO;2 THWA;2 CHA;2 CHU;2 CHI;2 CHAA;2 CHEE;2 CHE;2 CHO;2 CHWA",
     "2 PHA;2 PHU;2 PHI;2 PHAA;2 PHEE;2 PHE;2 PHO;2 PHWA;2 TSA;2 TSU;2 TSI;2 TSAA;2 TSEE;2 TSE",
     "2 TSO;2 TSWA;2 TZA;2 TZU;2 TZI;2 TZAA;2 TZEE;2 TZE;2 TZO;2 TZOA;2 FA;2 FU;2 FI;2 FAA",
     "2 FEE;2 FE;2 FO;2 FWA;2 PA;2 PU;2 PI;2 PAA;2 PEE;2 PE;2 PO;2 PWA;2 RYA;2 MYA;2 FYA"]),
   (4957,
    ["ETHIOPIC COMBINING GEMINATION AND VOWEL LENGTH MARK;2 VOWEL LENGTH MARK",
     "2 GEMINATION MARK;1 SECTION MARK;1 WORDSPACE;1 FULL STOP;1 COMMA;1 SEMICOLON;1 COLON",
     "1 PREFACE COLON;1 QUESTION MARK;1 PARAGRAPH SEPARATOR;1 DIGIT ONE;2 TWO;2 THREE;2 FOUR",
     "2 FIVE;2 SIX;2 SEVEN;2 EIGHT;2 NINE;1 NUMBER TEN;2 TWENTY;2 THIRTY;2 FORTY;2 FIFTY",
     "2 SIXTY;2 SEVENTY;2 EIGHTY;2 NINETY;2 HUNDRED;2 TEN THOUSAND"]),
   (4992,
    ["ETHIOPIC SYLLABLE SEBATBEIT MWA;2 MWI;2 MWEE;2 MWE;2 SEBATBEIT BWA;2 BWI;2 BWEE;2 BWE",
     "2 SEBATBEIT FWA;2 FWI;2 FWEE;2 FWE;2 SEBATBEIT PWA;2 PWI;2 PWEE;2 PWE;1 TONAL MARK YIZET",
     "3 DERET;3 RIKRIK;3 SHORT RIKRIK;3 DIFAT;3 KENAT;3 CHIRET;3 HIDET;3 DERET-HIDET;3 KURT"]),
   (5024,
    ["CHEROKEE LETTER A;2 E;2 I;2 O;2 U;2 V;2 GA;2 KA;2 GE;2 GI;2 GO;2 GU;2 GV;2 HA;2 HE;2 HI",
     "2 HO;2 HU;2 HV;2 LA;2 LE;2 LI;2 LO;2 LU;2 LV;2 MA;2 ME;2 MI;2 MO;2 MU;2 NA;2 HNA;2 NAH",
     "2 NE;2 NI;2 NO;2 NU;2 NV;2 QUA;2 QUE;2 QUI;2 QUO;2 QUU;2 QUV;2 SA;2 S;2 SE;2 SI;2 SO",
     "2 SU;2 SV;2 DA;2 TA;2 DE;2 TE;2 DI;2 TI;2 DO;2 DU;2 DV;2 DLA;2 TLA;2 TLE;2 TLI;2 TLO",
     "2 TLU;2 TLV;2 TSA;2 TSE;2 TSI;2 TSO;2 TSU;2 TSV;2 WA;2 WE;2 WI;2 WO;2 WU;2 WV;2 YA;2 YE",
     "2 YI;2 YO;2 YU;2 YV;2 MV"]),
   (5112, ["CHEROKEE SMALL LETTER YE;3 YI;3 YO;3 YU;3 YV;3 MV"]),
   (5120,
    ["CANADIAN SYLLABICS HYPHEN;2 E;2 AAI;2 I;2 II;2 O;2 OO;2 Y-CREE OO;2 CARRIER EE;3 I;2 A",
     "2 AA;2 WE;2 WEST-CREE WE;2 WI;2 WEST-CREE WI;2 WII;2 WEST-CREE WII;2 WO;2 WEST-CREE WO",
     "2 WOO;2 WEST-CREE WOO;2 NASKAPI WOO;2 WA;2 WEST-CREE WA;2 WAA;2 WEST-CREE WAA",
     "2 NASKAPI WAA;2 AI;2 Y-CREE W;2 GLOTTAL STOP;2 FINAL ACUTE;3 GRAVE;3 BOTTOM HALF RING",
     "3 TOP HALF RING;3 RIGHT HALF RING;3 RING;3 DOUBLE ACUTE;4 SHORT VERTICAL STROKES",
     "3 MIDDLE DOT;3 SHORT HORIZONTAL STROKE;3 PLUS;3 DOWN TACK;2 EN;2 IN;2 ON;2 AN;2 PE",
     "2 PAAI;2 PI;2 PII;2 PO;2 POO;2 Y-CREE POO;2 CARRIER HEE;3 HI;2 PA;2 PAA;2 PWE",
     "2 WEST-CREE PWE;2 PWI;2 WEST-CREE PWI;2 PWII;2 WEST-CREE PWII;2 PWO;2 WEST-CREE PWO",
     "2 PWOO;2 WEST-CREE PWOO;2 PWA;2 WEST-CREE PWA;2 PWAA;2 WEST-CREE PWAA;2 Y-CREE PWAA;2 P",
     "2 WEST-CREE P;2 CARRIER H;2 TE;2 TAAI;2 TI;2 TII;2 TO;2 TOO;2 Y-CREE TOO;2 CARRIER DEE",
     "3 DI;2 TA;2 TAA;2 TWE;2 WEST-CREE TWE;2 TWI;2 WEST-CREE TWI;2 TWII;2 WEST-CREE TWII",
     "2 TWO;2 WEST-CREE TWO;2 TWOO;2 WEST-CREE TWOO;2 TWA;2 WEST-CREE TWA;2 TWAA",
     "2 WEST-CREE TWAA;2 NASKAPI TWAA;2 T;2 TTE;2 TTI;2 TTO;2 TTA;2 KE;2 KAAI;2 KI;2 KII;2 KO",
     "2 KOO;2 Y-CREE KOO;2 KA;2 KAA;2 KWE;2 WEST-CREE KWE;2 KWI;2 WEST-CREE KWI;2 KWII",
     "2 WEST-CREE KWII;2 KWO;2 WEST-CREE KWO;2 KWOO;2 WEST-CREE KWOO;2 KWA;2 WEST-CREE KWA",
     "2 KWAA;2 WEST-CREE KWAA;2 NASKAPI KWAA;2 K;2 KW;2 SOUTH-SLAVEY KEH;3 KIH;3 KOH;3 KAH",
     "2 CE;2 CAAI;2 CI;2 CII;2 CO;2 COO;2 Y-CREE COO;2 CA;2 CAA;2 CWE;2 WEST-CREE CWE;2 CWI",
     "2 WEST-CREE CWI;2 CWII;2 WEST-CREE CWII;2 CWO;2 WEST-CREE CWO;2 CWOO;2 WEST-CREE CWOO",
     "2 CWA;2 WEST-CREE CWA;2 CWAA;2 WEST-CREE CWAA;2 NASKAPI CWAA;2 C;2 SAYISI TH;2 ME;2 MAAI",
     "2 MI;2 MII;2 MO;2 MOO;2 Y-CREE MOO;2 MA;2 MAA;2 MWE;2 WEST-CREE MWE;2 MWI",
     "2 WEST-CREE MWI;2 MWII;2 WEST-CREE MWII;2 MWO;2 WEST-CREE MWO;2 MWOO;2 WEST-CREE MWOO",
     "2 MWA;2 WEST-CREE MWA;2 MWAA;2 WEST-CREE MWAA;2 NASKAPI MWAA;2 M;2 WEST-CREE M;2 MH",
     "2 ATHAPASCAN M;2 SAYISI M;2 NE;2 NAAI;2 NI;2 NII;2 NO;2 NOO;2 Y-CREE NOO;2 NA;2 NAA",
     "2 NWE;2 WEST-CREE NWE;2 NWA;2 WEST-CREE NWA;2 NWAA;2 WEST-CREE NWAA;2 NASKAPI NWAA;2 N",
     "2 CARRIER NG;2 NH;2 LE;2 LAAI;2 LI;2 LII;2 LO;2 LOO;2 Y-CREE LOO;2 LA;2 LAA;2 LWE",
     "2 WEST-CREE LWE;2 LWI;2 WEST-CREE LWI;2 LWII;2 WEST-CREE LWII;2 LWO;2 WEST-CREE LWO",
     "2 LWOO;2 WEST-CREE LWOO;2 LWA;2 WEST-CREE LWA;2 LWAA;2 WEST-CREE LWAA;2 L;2 WEST-CREE L",
     "2 MEDIAL L;2 SE;2 SAAI;2 SI;2 SII;2 SO;2 SOO;2 Y-CREE SOO;2 SA;2 SAA;2 SWE",
     "2 WEST-CREE SWE;2 SWI;2 WEST-CREE SWI;2 SWII;2 WEST-CREE SWII;2 SWO;2 WEST-CREE SWO",
     "2 SWOO;2 WEST-CREE SWOO;2 SWA;2 WEST-CREE SWA;2 SWAA;2 WEST-CREE SWAA;2 NASKAPI SWAA;2 S",
     "2 ATHAPASCAN S;2 SW;2 BLACKFOOT S;2 MOOSE-CREE SK;2 NASKAPI SKW;3 S-W;3 SPWA;3 STWA",
     "3 SKWA;3 SCWA;2 SHE;2 SHI;2 SHII;2 SHO;2 SHOO;2 SHA;2 SHAA;2 SHWE;2 WEST-CREE SHWE",
     "2 SHWI;2 WEST-CREE SHWI;2 SHWII;2 WEST-CREE SHWII;2 SHWO;2 WEST-CREE SHWO;2 SHWOO",
     "2 WEST-CREE SHWOO;2 SHWA;2 WEST-CREE SHWA;2 SHWAA;2 WEST-CREE SHWAA;2 SH;2 YE;2 YAAI",
     "2 YI;2 YII;2 YO;2 YOO;2 Y-CREE YOO;2 YA;2 YAA;2 YWE;2 WEST-CREE YWE;2 YWI",
     "2 WEST-CREE YWI;2 YWII;2 WEST-CREE YWII;2 YWO;2 WEST-CREE YWO;2 YWOO;2 WEST-CREE YWOO",
     "2 YWA;2 WEST-CREE YWA;2 YWAA;2 WEST-CREE YWAA;2 NASKAPI YWAA;2 Y;2 BIBLE-CREE Y",
     "2 WEST-CREE Y;2 SAYISI YI;2 RE;2 R-CREE RE;2 WEST-CREE LE;2 RAAI;2 RI;2 RII;2 RO;2 ROO",
     "2 WEST-CREE LO;2 RA;2 RAA;2 WEST-CREE LA;2 RWAA;2 WEST-CREE RWAA;2 R;2 WEST-CREE R",
     "2 MEDIAL R;2 FE;2 FAAI;2 FI;2 FII;2 FO;2 FOO;2 FA;2 FAA;2 FWAA;2 WEST-CREE FWAA;2 F",
     "2 THE;2 N-CREE THE;2 THI;2 N-CREE THI;2 THII;2 N-CREE THII;2 THO;2 THOO;2 THA;2 THAA",
     "2 THWAA;2 WEST-CREE THWAA;2 TH;2 TTHE;2 TTHI;2 TTHO;2 TTHA;2 TTH;2 TYE;2 TYI;2 TYO;2 TYA",
     "2 NUNAVIK HE;3 HI;3 HII;3 HO;3 HOO;3 HA;3 HAA;3 H;2 NUNAVUT H;2 HK;2 QAAI;2 QI;2 QII",
     "2 QO;2 QOO;2 QA;2 QAA;2 Q;2 TLHE;2 TLHI;2 TLHO;2 TLHA;2 WEST-CREE RE;3 RI;3 RO;3 RA",
     "2 NGAAI;2 NGI;2 NGII;2 NGO;2 NGOO;2 NGA;2 NGAA;2 NG;2 NNG;2 SAYISI SHE;3 SHI;3 SHO;3 SHA",
     "2 WOODS-CREE THE;3 THI;3 THO;3 THA;3 TH;2 LHI;2 LHII;2 LHO;2 LHOO;2 LHA;2 LHAA;2 LH",
     "2 TH-CREE THE;3 THI;3 THII;3 THO;3 THOO;3 THA;3 THAA;3 TH;2 AIVILIK B;2 BLACKFOOT E;3 I",
     "3 O;3 A;3 WE;3 WI;3 WO;3 WA;3 NE;3 NI;3 NO;3 NA;3 KE;3 KI;3 KO;3 KA;2 SAYISI HE;3 HI",
     "3 HO;3 HA;2 CARRIER GHU;3 GHO;3 GHE;3 GHEE;3 GHI;3 GHA;3 RU;3 RO;3 RE;3 REE;3 RI;3 RA",
     "3 WU;3 WO;3 WE;3 WEE;3 WI;3 WA;3 HWU;3 HWO;3 HWE;3 HWEE;3 HWI;3 HWA;3 THU;3 THO;3 THE",
     "3 THEE;3 THI;3 THA;3 TTU;3 TTO;3 TTE;3 TTEE;3 TTI;3 TTA;3 PU;3 PO;3 PE;3 PEE;3 PI;3 PA",
     "3 P;3 GU;3 GO;3 GE;3 GEE;3 GI;3 GA;3 KHU;3 KHO;3 KHE;3 KHEE;3 KHI;3 KHA;3 KKU;3 KKO",
     "3 KKE;3 KKEE;3 KKI;3 KKA;3 KK;3 NU;3 NO;3 NE;3 NEE;3 NI;3 NA;3 MU;3 MO;3 ME;3 MEE;3 MI",
     "3 MA;3 YU;3 YO;3 YE;3 YEE;3 YI;3 YA;3 JU;2 SAYISI JU;2 CARRIER JO;3 JE;3 JEE;3 JI",
     "2 SAYISI JI;2 CARRIER JA;3 JJU;3 JJO;3 JJE;3 JJEE;3 JJI;3 JJA;3 LU;3 LO;3 LE;3 LEE;3 LI",
     "3 LA;3 DLU;3 DLO;3 DLE;3 DLEE;3 DLI;3 DLA;3 LHU;3 LHO;3 LHE;3 LHEE;3 LHI;3 LHA;3 TLHU",
     "3 TLHO;3 TLHE;3 TLHEE;3 TLHI;3 TLHA;3 TLU;3 TLO;3 TLE;3 TLEE;3 TLI;3 TLA;3 ZU;3 ZO;3 ZE",
     "3 ZEE;3 ZI;3 ZA;3 Z;3 INITIAL Z;3 DZU;3 DZO;3 DZE;3 DZEE;3 DZI;3 DZA;3 SU;3 SO;3 SE",
     "3 SEE;3 SI;3 SA;3 SHU;3 SHO;3 SHE;3 SHEE;3 SHI;3 SHA;3 SH;3 TSU;3 TSO;3 TSE;3 TSEE;3 TSI",
     "3 TSA;3 CHU;3 CHO;3 CHE;3 CHEE;3 CHI;3 CHA;3 TTSU;3 TTSO;3 TTSE;3 TTSEE;3 TTSI;3 TTSA",
     "2 CHI SIGN;2 FULL STOP;2 QAI;2 NGAI;2 NNGI;2 NNGII;2 NNGO;2 NNGOO;2 NNGA;2 NNGAA",
     "2 WOODS-CREE THWEE;3 THWI;3 THWII;3 THWO;3 THWOO;3 THWA;3 THWAA;3 FINAL TH;2 BLACKFOOT W",
     "OGHAM SPACE MARK;1 LETTER BEITH;2 LUIS;2 FEARN;2 SAIL;2 NION;2 UATH;2 DAIR;2 TINNE",
     "2 COLL;2 CEIRT;2 MUIN;2 GORT;2 NGEADAL;2 STRAIF;2 RUIS;2 AILM;2 ONN;2 UR;2 EADHADH",
     "2 IODHADH;2 EABHADH;2 OR;2 UILLEANN;2 IFIN;2 EAMHANCHOLL;2 PEITH;1 FEATHER MARK",
     "1 REVERSED FEATHER MARK"]),
   (5792,
    ["RUNIC LETTER FEHU FEOH FE F;2 V;2 URUZ UR U;2 YR;2 Y;2 W;2 THURISAZ THURS THORN;2 ETH",
     "2 ANSUZ A;2 OS O;2 AC A;2 AESC;2 LONG-BRANCH-OSS O;2 SHORT-TWIG-OSS O;2 O;2 OE;2 ON",
     "2 RAIDO RAD REID R;2 KAUNA;2 CEN;2 KAUN K;2 G;2 ENG;2 GEBO GYFU G;2 GAR;2 WUNJO WYNN W",
     "2 HAGLAZ H;2 HAEGL H;2 LONG-BRANCH-HAGALL H;2 SHORT-TWIG-HAGALL H;2 NAUDIZ NYD NAUD N",
     "2 SHORT-TWIG-NAUD N;2 DOTTED-N;2 ISAZ IS ISS I;2 E;2 JERAN J;2 GER;2 LONG-BRANCH-AR AE",
     "2 SHORT-TWIG-AR A;2 IWAZ EOH;2 PERTHO PEORTH P;2 ALGIZ EOLHX;2 SOWILO S",
     "2 SIGEL LONG-BRANCH-SOL S;2 SHORT-TWIG-SOL S;2 C;2 Z;2 TIWAZ TIR TYR T",
     "2 SHORT-TWIG-TYR T;2 D;2 BERKANAN BEORC BJARKAN B;2 SHORT-TWIG-BJARKAN B;2 DOTTED-P",
     "2 OPEN-P;2 EHWAZ EH E;2 MANNAZ MAN M;2 LONG-BRANCH-MADR M;2 SHORT-TWIG-MADR M",
     "2 LAUKAZ LAGU LOGR L;2 DOTTED-L;2 INGWAZ;2 ING;2 DAGAZ DAEG D;2 OTHALAN ETHEL O;2 EAR",
     "2 IOR;2 CWEORTH;2 CALC;2 CEALC;2 STAN;2 LONG-BRANCH-YR;2 SHORT-TWIG-YR;2 ICELANDIC-YR",
     "2 Q;2 X;1 SINGLE PUNCTUATION;1 MULTIPLE PUNCTUATION;1 CROSS PUNCTUATION;1 ARLAUG SYMBOL",
     "1 TVIMADUR SYMBOL;1 BELGTHOR SYMBOL;1 LETTER K;2 SH;2 OO;2 FRANKS CASKET OS;4 IS;4 EH",
     "4 AC;4 AESC"]),
   (5888,
    ["TAGALOG LETTER A;2 I;2 U;2 KA;2 GA;2 NGA;2 TA;2 DA;2 NA;2 PA;2 BA;2 MA;2 YA;2 RA;2 LA",
     "2 WA;2 SA;2 HA;1 VOWEL SIGN I;3 U;1 SIGN VIRAMA;2 PAMUDPOD"]),
   (5919,
    ["TAGALOG LETTER ARCHAIC RA;HANUNOO LETTER A;2 I;2 U;2 KA;2 GA;2 NGA;2 TA;2 DA;2 NA;2 PA",
     "2 BA;2 MA;2 YA;2 RA;2 LA;2 WA;2 SA;2 HA;1 VOWEL SIGN I;3 U;1 SIGN PAMUDPOD",
     "PHILIPPINE SINGLE PUNCTUATION;1 DOUBLE PUNCTUATION"]),
   (5952,
    ["BUHID LETTER A;2 I;2 U;2 KA;2 GA;2 NGA;2 TA;2 DA;2 NA;2 PA;2 BA;2 MA;2 YA;2 RA;2 LA;2 WA",
     "2 SA;2 HA;1 VOWEL SIGN I;3 U"]),
   (5984, ["TAGBANWA LETTER A;2 I;2 U;2 KA;2 GA;2 NGA;2 TA;2 DA;2 NA;2 PA;2 BA;2 MA;2 YA"]),
   (5998, ["TAGBANWA LETTER LA;2 WA;2 SA"]),
   (6002, ["TAGBANWA VOWEL SIGN I;3 U"]),
   (6016,
    ["KHMER LETTER KA;2 KHA;2 KO;2 KHO;2 NGO;2 CA;2 CHA;2 CO;2 CHO;2 NYO;2 DA;2 TTHA;2 DO",
     "2 TTHO;2 NNO;2 TA;2 THA;2 TO;2 THO;2 NO;2 BA;2 PHA;2 PO;2 PHO;2 MO;2 YO;2 RO;2 LO;2 VO",
     "2 SHA;2 SSO;2 SA;2 HA;2 LA;2 QA;1 INDEPENDENT VOWEL QAQ;3 QAA;3 QI;3 QII;3 QU;3 QUK",
     "3 QUU;3 QUUV;3 RY;3 RYY;3 LY;3 LYY;3 QE;3 QAI;3 QOO TYPE ONE;5 TWO;3 QAU",
     "1 VOWEL INHERENT AQ;3 AA;2 SIGN AA;3 I;3 II;3 Y;3 YY;3 U;3 UU;3 UA;3 OE;3 YA;3 IE;3 E",
     "3 AE;3 AI;3 OO;3 AU;1 SIGN NIKAHIT;2 REAHMUK;2 YUUKALEAPINTU;2 MUUSIKATOAN;2 TRIISAP",
     "2 BANTOC;2 ROBAT;2 TOANDAKHIAT;2 KAKABAT;2 AHSDA;2 SAMYOK SANNYA;2 VIRIAM;2 COENG",
     "2 BATHAMASAT;2 KHAN;2 BARIYOOSAN;2 CAMNUC PII KUUH;2 LEK TOO;2 BEYYAL;2 PHNAEK MUAN",
     "2 KOOMUUT;1 CURRENCY SYMBOL RIEL;1 SIGN AVAKRAHASANYA;2 ATTHACAN"]),
   (6112, ["KHMER DIGIT ZERO;2 ONE;2 TWO;2 THREE;2 FOUR;2 FIVE;2 SIX;2 SEVEN;2 EIGHT;2 NINE"]),
   (6128,
    ["KHMER SYMBOL LEK ATTAK SON;4 MUOY;4 PII;4 BEI;4 BUON;4 PRAM;4 PRAM-MUOY;4 PRAM-PII",
     "4 PRAM-BEI;4 PRAM-BUON"]),
   (6144,
    ["MONGOLIAN BIRGA;1 ELLIPSIS;1 COMMA;1 FULL STOP;1 COLON;1 FOUR DOTS;1 TODO SOFT HYPHEN",
     "1 SIBE SYLLABLE BOUNDARY MARKER;1 MANCHU COMMA;2 FULL STOP;1 NIRUGU",
     "1 FREE VARIATION SELECTOR ONE;4 TWO;4 THREE;1 VOWEL SEPARATOR",
     "1 FREE VARIATION SELECTOR FOUR;1 DIGIT ZERO;2 ONE;2 TWO;2 THREE;2 FOUR;2 FIVE;2 SIX",
     "2 SEVEN;2 EIGHT;2 NINE"]),
   (6176,
    ["MONGOLIAN LETTER A;2 E;2 I;2 O;2 U;2 OE;2 UE;2 EE;2 NA;2 ANG;2 BA;2 PA;2 QA;2 GA;2 MA",
     "2 LA;2 SA;2 SHA;2 TA;2 DA;2 CHA;2 JA;2 YA;2 RA;2 WA;2 FA;2 KA;2 KHA;2 TSA;2 ZA;2 HAA",
     "2 ZRA;2 LHA;2 ZHI;2 CHI;2 TODO LONG VOWEL SIGN;3 E;3 I;3 O;3 U;3 OE;3 UE;3 ANG;3 BA;3 PA",
     "3 QA;3 GA;3 MA;3 TA;3 DA;3 CHA;3 JA;3 TSA;3 YA;3 WA;3 KA;3 GAA;3 HAA;3 JIA;3 NIA;3 DZA",
     "2 SIBE E;3 I;3 IY;3 UE;3 U;3 ANG;3 KA;3 GA;3 HA;3 PA;3 SHA;3 TA;3 DA;3 JA;3 FA;3 GAA",
     "3 HAA;3 TSA;3 ZA;3 RAA;3 CHA;3 ZHA;2 MANCHU I;3 KA;3 RA;3 FA;3 ZHA;2 CHA WITH TWO DOTS"]),
   (6272,
    ["MONGOLIAN LETTER ALI GALI ANUSVARA ONE;4 VISARGA ONE;4 DAMARU;4 UBADAMA",
     "4 INVERTED UBADAMA;4 BALUDA;4 THREE BALUDA;4 A;4 I;4 KA;4 NGA;4 CA;4 TTA;4 TTHA;4 DDA",
     "4 NNA;4 TA;4 DA;4 PA;4 PHA;4 SSA;4 ZHA;4 ZA;4 AH;2 TODO ALI GALI TA;5 ZHA",
     "2 MANCHU ALI GALI GHA;5 NGA;5 CA;5 JHA;5 TTA;5 DDHA;5 TA;5 DHA;5 SSA;5 CYA;5 ZHA;5 ZA",
     "2 ALI GALI HALF U;5 YA;2 MANCHU ALI GALI BHA;2 ALI GALI DAGALGA;2 MANCHU ALI GALI LHA"]),
   (6320,
    ["CANADIAN SYLLABICS OY;2 AY;2 AAY;2 WAY;2 POY;2 PAY;2 PWOY;2 TAY;2 KAY;2 KWAY;2 MAY;2 NOY",
     "2 NAY;2 LAY;2 SOY;2 SAY;2 SHOY;2 SHAY;2 SHWOY;2 YOY;2 YAY;2 RAY;2 NWI;2 OJIBWAY NWI",
     "2 NWII;2 OJIBWAY NWII;2 NWO;2 OJIBWAY NWO;2 NWOO;2 OJIBWAY NWOO;2 RWEE;2 RWI;2 RWII",
     "2 RWO;2 RWOO;2 RWA;2 OJIBWAY P;3 T;3 K;3 C;3 M;3 N;3 S;3 SH;2 EASTERN W;2 WESTERN W",
     "2 FINAL SMALL RING;3 RAISED DOT;2 R-CREE RWE;2 WEST-CREE LOO;3 LAA;2 THWE;2 THWA;2 TTHWE",
     "2 TTHOO;2 TTHAA;2 TLHWE;2 TLHOO;2 SAYISI SHWE;3 SHOO;3 HOO;2 CARRIER GWU;3 DENE GEE",
     "3 GAA;3 GWA;2 SAYISI JUU;2 CARRIER JWA;2 BEAVER DENE L;4 R;2 CARRIER DENTAL S"]),
   (6400,
    ["LIMBU VOWEL-CARRIER LETTER;1 LETTER KA;2 KHA;2 GA;2 GHA;2 NGA;2 CA;2 CHA;2 JA;2 JHA",
     "2 YAN;2 TA;2 THA;2 DA;2 DHA;2 NA;2 PA;2 PHA;2 BA;2 BHA;2 MA;2 YA;2 RA;2 LA;2 WA;2 SHA",
     "2 SSA;2 SA;2 HA;2 GYAN;2 TRA"]),
   (6432,
    ["LIMBU VOWEL SIGN A;3 I;3 U;3 EE;3 AI;3 OO;3 AU;3 E;3 O;1 SUBJOINED LETTER YA;3 RA;3 WA"]),
   (6448,
    ["LIMBU SMALL LETTER KA;3 NGA;3 ANUSVARA;3 TA;3 NA;3 PA;3 MA;3 RA;3 LA;1 SIGN MUKPHRENG",
     "2 KEMPHRENG;2 SA-I"]),
   (6464, ["LIMBU SIGN LOO"]),
   (6468,
    ["LIMBU EXCLAMATION MARK;1 QUESTION MARK;1 DIGIT ZERO;2 ONE;2 TWO;2 THREE;2 FOUR;2 FIVE",
     "2 SIX;2 SEVEN;2 EIGHT;2 NINE;TAI LE LETTER KA;3 XA;3 NGA;3 TSA;3 SA;3 YA;3 TA;3 THA;3 LA",
     "3 PA;3 PHA;3 MA;3 FA;3 VA;3 HA;3 QA;3 KHA;3 TSHA;3 NA;3 A;3 I;3 EE;3 EH;3 U;3 OO;3 O",
     "3 UE;3 E;3 AUE;3 AI"]),
   (6512, ["TAI LE LETTER TONE-2;3 TONE-3;3 TONE-4;3 TONE-5;3 TONE-6"]),
   (6528,
    ["NEW TAI LUE LETTER HIGH QA;4 LOW QA;4 HIGH KA;5 XA;5 NGA;4 LOW KA;5 XA;5 NGA;4 HIGH TSA",
     "5 SA;5 YA;4 LOW TSA;5 SA;5 YA;4 HIGH TA;5 THA;5 NA;4 LOW TA;5 THA;5 NA;4 HIGH PA;5 PHA",
     "5 MA;4 LOW PA;5 PHA;5 MA;4 HIGH FA;5 VA;5 LA;4 LOW FA;5 VA;5 LA;4 HIGH HA;5 DA;5 BA",
     "4 LOW HA;5 DA;5 BA;4 HIGH KVA;5 XVA;4 LOW KVA;5 XVA;4 HIGH SUA;4 LOW SUA"]),
   (6576,
    ["NEW TAI LUE VOWEL SIGN VOWEL SHORTENER;5 AA;5 II;5 U;5 UU;5 E;5 AE;5 O;5 OA;5 UE;5 AY",
     "5 AAY;5 UY;5 OY;5 OAY;5 UEY;5 IY;3 LETTER FINAL V;5 NG;5 N;5 M;5 K;5 D;5 B;3 TONE MARK-1",
     "4 MARK-2"]),
   (6608,
    ["NEW TAI LUE DIGIT ZERO;4 ONE;4 TWO;4 THREE;4 FOUR;4 FIVE;4 SIX;4 SEVEN;4 EIGHT;4 NINE",
     "3 THAM DIGIT ONE"]),
   (6622,
    ["NEW TAI LUE SIGN LAE;4 LAEV;KHMER SYMBOL PATHAMASAT;2 MUOY KOET;2 PII KOET;2 BEI KOET",
     "2 BUON KOET;2 PRAM KOET;2 PRAM-MUOY KOET;2 PRAM-PII KOET;2 PRAM-BEI KOET",
     "2 PRAM-BUON KOET;2 DAP KOET;2 DAP-MUOY KOET;2 DAP-PII KOET;2 DAP-BEI KOET",
     "2 DAP-BUON KOET;2 DAP-PRAM KOET;2 TUTEYASAT;2 MUOY ROC;2 PII ROC;2 BEI ROC;2 BUON ROC",
     "2 PRAM ROC;2 PRAM-MUOY ROC;2 PRAM-PII ROC;2 PRAM-BEI ROC;2 PRAM-BUON ROC;2 DAP ROC",
     "2 DAP-MUOY ROC;2 DAP-PII ROC;2 DAP-BEI ROC;2 DAP-BUON ROC;2 DAP-PRAM ROC",
     "BUGINESE LETTER KA;2 GA;2 NGA;2 NGKA;2 PA;2 BA;2 MA;2 MPA;2 TA;2 DA;2 NA;2 NRA;2 CA;2 JA",
     "2 NYA;2 NYCA;2 YA;2 RA;2 LA;2 VA;2 SA;2 A;2 HA;1 VOWEL SIGN I;3 U;3 E;3 O;3 AE"]),
   (6686,
    ["BUGINESE PALLAWA;1 END OF SECTION;TAI THAM LETTER HIGH KA;4 KHA;4 KXA;3 LOW KA;4 KXA",
     "4 KHA;3 NGA;3 HIGH CA;4 CHA;3 LOW CA;4 SA;4 CHA;3 NYA;3 RATA;3 HIGH RATHA;3 DA",
     "3 LOW RATHA;3 RANA;3 HIGH TA;4 THA;3 LOW TA;4 THA;3 NA;3 BA;3 HIGH PA;4 PHA;4 FA",
     "3 LOW PA;4 FA;4 PHA;3 MA;3 LOW YA;3 HIGH YA;3 RA;3 RUE;3 LA;3 LUE;3 WA;3 HIGH SHA;4 SSA",
     "4 SA;4 HA;3 LLA;3 A;3 LOW HA;3 I;3 II;3 U;3 UU;3 EE;3 OO;3 LAE;3 GREAT SA",
     "2 CONSONANT SIGN MEDIAL RA;5 LA;4 LA TANG LAI;2 SIGN MAI KANG LAI",
     "2 CONSONANT SIGN FINAL NGA;4 LOW PA;4 HIGH RATHA OR LOW PA;4 MA;4 BA;4 SA"]),
   (6752,
    ["TAI THAM SIGN SAKOT;2 VOWEL SIGN A;4 MAI SAT;4 AA;4 TALL AA;4 I;4 II;4 UE;4 UUE;4 U;4 UU",
     "4 O;4 OA BELOW;4 OY;4 E;4 AE;4 OO;4 AI;4 THAM AI;4 OA ABOVE;2 SIGN MAI KANG;3 TONE-1",
     "3 TONE-2;3 KHUEN TONE-3;4 TONE-4;4 TONE-5;3 RA HAAM;3 MAI SAM;3 KHUEN-LUE KARAN"]),
   (6783,
    ["TAI THAM COMBINING CRYPTOGRAMMIC DOT;2 HORA DIGIT ZERO;4 ONE;4 TWO;4 THREE;4 FOUR;4 FIVE",
     "4 SIX;4 SEVEN;4 EIGHT;4 NINE"]),
   (6800,
    ["TAI THAM THAM DIGIT ZERO;4 ONE;4 TWO;4 THREE;4 FOUR;4 FIVE;4 SIX;4 SEVEN;4 EIGHT;4 NINE"]),
   (6816,
    ["TAI THAM SIGN WIANG;3 WIANGWAAK;3 SAWAN;3 KEOW;3 HOY;3 DOKMAI;3 REVERSED ROTATED RANA",
     "3 MAI YAMOK;3 KAAN;3 KAANKUU;3 SATKAAN;3 SATKAANKUU;3 HANG;3 CAANG"]),
   (6832,
    ["COMBINING DOUBLED CIRCUMFLEX ACCENT;1 DIAERESIS-RING;1 INFINITY;1 DOWNWARDS ARROW",
     "1 TRIPLE DOT;1 X-X BELOW;1 WIGGLY LINE BELOW;1 OPEN MARK BELOW;1 DOUBLE OPEN MARK BELOW",
     "1 LIGHT CENTRALIZATION STROKE BELOW;1 STRONG CENTRALIZATION STROKE BELOW",
     "1 PARENTHESES ABOVE;1 DOUBLE PARENTHESES ABOVE;1 PARENTHESES BELOW;2 OVERLAY",
     "1 LATIN SMALL LETTER W BELOW;4 TURNED W BELOW;1 LEFT PARENTHESIS ABOVE LEFT",
     "1 RIGHT PARENTHESIS ABOVE RIGHT;1 LEFT PARENTHESIS BELOW LEFT",
     "1 RIGHT PARENTHESIS BELOW RIGHT;1 SQUARE BRACKETS ABOVE;1 NUMBER SIGN ABOVE",
     "1 INVERTED DOUBLE ARCH ABOVE;1 PLUS SIGN ABOVE;1 DOUBLE PLUS SIGN ABOVE;4 BELOW",
     "1 TRIPLE ACUTE ACCENT;1 LATIN SMALL LETTER INSULAR G;5 R;5 T"]),
   (6912,
    ["BALINESE SIGN ULU RICEM;3 CANDRA;2 CECEK;2 SURANG;2 BISAH;1 LETTER AKARA;3 TEDUNG",
     "2 IKARA;3 TEDUNG;2 UKARA;3 TEDUNG;2 RA REPA;4 TEDUNG;2 LA LENGA;4 TEDUNG;2 EKARA",
     "2 AIKARA;2 OKARA;3 TEDUNG;2 KA;3 MAHAPRANA;2 GA;3 GORA;2 NGA;2 CA;3 LACA;2 JA;3 JERA",
     "2 NYA;2 TA LATIK;3 MURDA MAHAPRANA;2 DA MURDA ALPAPRANA;4 MAHAPRANA;2 NA RAMBAT;2 TA",
     "3 TAWA;2 DA;3 MADU;2 NA;2 PA;3 KAPAL;2 BA;3 KEMBANG;2 MA;2 YA;2 RA;2 LA;2 WA;2 SA SAGA",
     "3 SAPA;2 SA;2 HA;1 SIGN REREKAN;1 VOWEL SIGN TEDUNG;3 ULU;4 SARI;3 SUKU;4 ILUT;3 RA REPA",
     "5 TEDUNG;3 LA LENGA;5 TEDUNG;3 TALING;4 REPA;4 TEDUNG;4 REPA TEDUNG;3 PEPET;4 TEDUNG",
     "1 ADEG ADEG;1 LETTER KAF SASAK;2 KHOT SASAK;2 TZIR SASAK;2 EF SASAK;2 VE SASAK",
     "2 ZAL SASAK;2 ASYURA SASAK;2 ARCHAIC JNYA"]),
   (6992,
    ["BALINESE DIGIT ZERO;2 ONE;2 TWO;2 THREE;2 FOUR;2 FIVE;2 SIX;2 SEVEN;2 EIGHT;2 NINE",
     "1 PANTI;1 PAMADA;1 WINDU;1 CARIK PAMUNGKAH;2 SIKI;2 PAREREN;1 PAMENENG",
     "1 MUSICAL SYMBOL DONG;3 DENG;3 DUNG;3 DANG;4 SURANG;3 DING;3 DAENG;3 DEUNG;3 DAING",
     "3 DANG GEDE;3 COMBINING TEGEH;4 ENDEP;4 KEMPUL;4 KEMPLI;4 JEGOGAN;4 KEMPUL WITH JEGOGAN",
     "4 KEMPLI WITH JEGOGAN;4 BENDE;4 GONG;3 RIGHT-HAND OPEN DUG;5 DAG;4 CLOSED TUK;5 TAK",
     "3 LEFT-HAND OPEN PANG;5 PUNG;4 CLOSED PLAK;5 PLUK;4 OPEN PING;1 PANTI LANTANG",
     "1 PAMADA LANTANG"]),
   (7040,
    ["SUNDANESE SIGN PANYECEK;2 PANGLAYAR;2 PANGWISAD;1 LETTER A;2 I;2 U;2 AE;2 O;2 E;2 EU",
     "2 KA;2 QA;2 GA;2 NGA;2 CA;2 JA;2 ZA;2 NYA;2 TA;2 DA;2 NA;2 PA;2 FA;2 VA;2 BA;2 MA;2 YA",
     "2 RA;2 LA;2 WA;2 SA;2 XA;2 HA;1 CONSONANT SIGN PAMINGKAL;3 PANYAKRA;3 PANYIKU",
     "1 VOWEL SIGN PANGHULU;3 PANYUKU;3 PANAELAENG;3 PANOLONG;3 PAMEPET;3 PANEULEUNG",
     "1 SIGN PAMAAEH;2 VIRAMA;1 CONSONANT SIGN PASANGAN MA;4 WA;1 LETTER KHA;2 SYA",
     "1 DIGIT ZERO;2 ONE;2 TWO;2 THREE;2 FOUR;2 FIVE;2 SIX;2 SEVEN;2 EIGHT;2 NINE;1 AVAGRAHA",
     "1 LETTER REU;2 LEU;2 BHA;2 FINAL K;3 M;BATAK LETTER A;2 SIMALUNGUN A;2 HA",
     "2 SIMALUNGUN HA;2 MANDAILING HA;2 BA;2 KARO BA;2 PA;2 SIMALUNGUN PA;2 NA;2 MANDAILING NA",
     "2 WA;2 SIMALUNGUN WA;2 PAKPAK WA;2 GA;2 SIMALUNGUN GA;2 JA;2 DA;2 RA;2 SIMALUNGUN RA",
     "2 MA;2 SIMALUNGUN MA;2 SOUTHERN TA;2 NORTHERN TA;2 SA;2 SIMALUNGUN SA;2 MANDAILING SA",
     "2 YA;2 SIMALUNGUN YA;2 NGA;2 LA;2 SIMALUNGUN LA;2 NYA;2 CA;2 NDA;2 MBA;2 I;2 U",
     "1 SIGN TOMPI;1 VOWEL SIGN E;3 PAKPAK E;3 EE;3 I;3 KARO I;3 O;3 KARO O;3 U",
     "4 FOR SIMALUNGUN SA;1 CONSONANT SIGN NG;3 H;1 PANGOLAT;1 PANONGONAN"]),
   (7164,
    ["BATAK SYMBOL BINDU NA METEK;3 PINARBORAS;3 JUDUL;3 PANGOLAT;LEPCHA LETTER KA;2 KLA;2 KHA",
     "2 GA;2 GLA;2 NGA;2 CA;2 CHA;2 JA;2 NYA;2 TA;2 THA;2 DA;2 NA;2 PA;2 PLA;2 PHA;2 FA;2 FLA",
     "2 BA;2 BLA;2 MA;2 MLA;2 TSA;2 TSHA;2 DZA;2 YA;2 RA;2 LA;2 HA;2 HLA;2 VA;2 SA;2 SHA;2 WA",
     "2 A;1 SUBJOINED LETTER YA;3 RA;1 VOWEL SIGN AA;3 I;3 O;3 OO;3 U;3 UU;3 E",
     "1 CONSONANT SIGN K;3 M;3 L;3 N;3 P;3 R;3 T;3 NYIN-DO;3 KANG;1 SIGN RAN;2 NUKTA"]),
   (7227,
    ["LEPCHA PUNCTUATION TA-ROL;2 NYET THYOOM TA-ROL;2 CER-WA;2 TSHOOK CER-WA;2 TSHOOK",
     "1 DIGIT ZERO;2 ONE;2 TWO;2 THREE;2 FOUR;2 FIVE;2 SIX;2 SEVEN;2 EIGHT;2 NINE"]),
   (7245,
    ["LEPCHA LETTER TTA;2 TTHA;2 DDA;OL CHIKI DIGIT ZERO;3 ONE;3 TWO;3 THREE;3 FOUR;3 FIVE",
     "3 SIX;3 SEVEN;3 EIGHT;3 NINE;2 LETTER LA;3 AT;3 AG;3 ANG;3 AL;3 LAA;3 AAK;3 AAJ;3 AAM",
     "3 AAW;3 LI;3 IS;3 IH;3 INY;3 IR;3 LU;3 UC;3 UD;3 UNN;3 UY;3 LE;3 EP;3 EDD;3 EN;3 ERR",
     "3 LO;3 OTT;3 OB;3 OV;3 OH;2 MU TTUDDAG;2 GAAHLAA TTUDDAAG;2 MU-GAAHLAA TTUDDAAG;2 RELAA",
     "2 PHAARKAA;2 AHAD;2 PUNCTUATION MUCAAD;3 DOUBLE MUCAAD;CYRILLIC SMALL LETTER ROUNDED VE",
     "3 LONG-LEGGED DE;3 NARROW O;3 WIDE ES;3 TALL TE;3 THREE-LEGGED TE;3 TALL HARD SIGN;4 YAT",
     "3 UNBLENDED UK"]),
   (7312,
    ["GEORGIAN MTAVRULI CAPITAL LETTER AN;4 BAN;4 GAN;4 DON;4 EN;4 VIN;4 ZEN;4 TAN;4 IN;4 KAN",
     "4 LAS;4 MAN;4 NAR;4 ON;4 PAR;4 ZHAR;4 RAE;4 SAN;4 TAR;4 UN;4 PHAR;4 KHAR;4 GHAN;4 QAR",
     "4 SHIN;4 CHIN;4 CAN;4 JIL;4 CIL;4 CHAR;4 XAN;4 JHAN;4 HAE;4 HE;4 HIE;4 WE;4 HAR;4 HOE",
     "4 FI;4 YN;4 ELIFI;4 TURNED GAN;4 AIN"]),
   (7357,
    ["GEORGIAN MTAVRULI CAPITAL LETTER AEN;4 HARD SIGN;4 LABIAL SIGN",
     "SUNDANESE PUNCTUATION BINDU SURYA;3 PANGLONG;3 PURNAMA;3 CAKRA;3 LEU SATANGA",
     "3 KA SATANGA;3 DA SATANGA;3 BA SATANGA"]),
   (7376,
    ["VEDIC TONE KARSHANA;2 SHARA;2 PRENKHA;1 SIGN NIHSHVASA;2 YAJURVEDIC MIDLINE SVARITA",
     "1 TONE YAJURVEDIC AGGRAVATED INDEPENDENT SVARITA;3 INDEPENDENT SVARITA",
     "3 KATHAKA INDEPENDENT SVARITA;2 CANDRA BELOW",
     "2 YAJURVEDIC KATHAKA INDEPENDENT SVARITA SCHROEDER;2 DOUBLE SVARITA;2 TRIPLE SVARITA",
     "2 KATHAKA ANUDATTA;2 DOT BELOW;2 TWO DOTS BELOW;2 THREE DOTS BELOW",
     "2 RIGVEDIC KASHMIRI INDEPENDENT SVARITA;2 ATHARVAVEDIC INDEPENDENT SVARITA",
     "1 SIGN VISARGA SVARITA;3 UDATTA;2 REVERSED VISARGA UDATTA;2 VISARGA ANUDATTA",
     "2 REVERSED VISARGA ANUDATTA;2 VISARGA UDATTA WITH TAIL;3 ANUDATTA WITH TAIL",
     "2 ANUSVARA ANTARGOMUKHA;3 BAHIRGOMUKHA;3 VAMAGOMUKHA;4 WITH TAIL;2 TIRYAK",
     "2 HEXIFORM LONG ANUSVARA;2 LONG ANUSVARA;2 RTHANG LONG ANUSVARA",
     "2 ANUSVARA UBHAYATO MUKHA;2 ARDHAVISARGA;2 ROTATED ARDHAVISARGA;1 TONE CANDRA ABOVE",
     "1 SIGN JIHVAMULIYA;2 UPADHMANIYA;2 ATIKRAMA;1 TONE RING ABOVE;2 DOUBLE RING ABOVE",
     "1 SIGN DOUBLE ANUSVARA ANTARGOMUKHA"]),
   (7424,
    ["LATIN LETTER SMALL CAPITAL A;4 AE;1 SMALL LETTER TURNED AE",
     "1 LETTER SMALL CAPITAL BARRED B;4 C;4 D;4 ETH;4 E;1 SMALL LETTER TURNED OPEN E;4 I",
     "1 LETTER SMALL CAPITAL J;4 K;4 L WITH STROKE;4 M;4 REVERSED N;4 O;4 OPEN O",
     "1 SMALL LETTER SIDEWAYS O;4 OPEN O;4 O WITH STROKE;3 TURNED OE;1 LETTER SMALL CAPITAL OU",
     "1 SMALL LETTER TOP HALF O;3 BOTTOM HALF O;1 LETTER SMALL CAPITAL P;4 REVERSED R",
     "4 TURNED R;4 T;4 U;1 SMALL LETTER SIDEWAYS U;4 DIAERESIZED U;4 TURNED M",
     "1 LETTER SMALL CAPITAL V;4 W;4 Z;4 EZH;2 VOICED LARYNGEAL SPIRANT;2 AIN",
     "GREEK LETTER SMALL CAPITAL GAMMA;4 LAMDA;4 PI;4 RHO;4 PSI",
     "CYRILLIC LETTER SMALL CAPITAL EL;MODIFIER LETTER CAPITAL A;3 AE;3 B;3 BARRED B;3 D;3 E",
     "3 REVERSED E;3 G;3 H;3 I;3 J;3 K;3 L;3 M;3 N;3 REVERSED N;3 O;3 OU;3 P;3 R;3 T;3 U;3 W",
     "2 SMALL A;3 TURNED A;3 ALPHA;3 TURNED AE;3 B;3 D;3 E;3 SCHWA;3 OPEN E;3 TURNED OPEN E",
     "3 G;3 TURNED I;3 K;3 M;3 ENG;3 O;3 OPEN O;3 TOP HALF O;3 BOTTOM HALF O;3 P;3 T;3 U",
     "3 SIDEWAYS U;3 TURNED M;3 V;3 AIN;3 BETA;3 GREEK GAMMA;3 DELTA;3 GREEK PHI;3 CHI",
     "LATIN SUBSCRIPT SMALL LETTER I;4 R;4 U;4 V;GREEK SUBSCRIPT SMALL LETTER BETA;4 GAMMA",
     "4 RHO;4 PHI;4 CHI;LATIN SMALL LETTER UE;3 B WITH MIDDLE TILDE;3 D WITH MIDDLE TILDE",
     "3 F WITH MIDDLE TILDE;3 M WITH MIDDLE TILDE;3 N WITH MIDDLE TILDE;3 P WITH MIDDLE TILDE",
     "3 R WITH MIDDLE TILDE;5 FISHHOOK AND MIDDLE TILDE;3 S WITH MIDDLE TILDE",
     "3 T WITH MIDDLE TILDE;3 Z WITH MIDDLE TILDE;3 TURNED G;MODIFIER LETTER CYRILLIC EN",
     "LATIN SMALL LETTER INSULAR G;3 TH WITH STRIKETHROUGH;2 CAPITAL LETTER I WITH STROKE",
     "2 LETTER IOTA WITH STROKE;3 P WITH STROKE;2 CAPITAL LETTER U WITH STROKE",
     "2 LETTER UPSILON WITH STROKE;3 B WITH PALATAL HOOK;3 D WITH PALATAL HOOK",
     "3 F WITH PALATAL HOOK;3 G WITH PALATAL HOOK;3 K WITH PALATAL HOOK;3 L WITH PALATAL HOOK",
     "3 M WITH PALATAL HOOK;3 N WITH PALATAL HOOK;3 P WITH PALATAL HOOK;3 R WITH PALATAL HOOK",
     "3 S WITH PALATAL HOOK;3 ESH WITH PALATAL HOOK;3 V WITH PALATAL HOOK",
     "3 X WITH PALATAL HOOK;3 Z WITH PALATAL HOOK;3 A WITH RETROFLEX HOOK",
     "3 ALPHA WITH RETROFLEX HOOK;3 D WITH HOOK AND TAIL;3 E WITH RETROFLEX HOOK",
     "3 OPEN E WITH RETROFLEX HOOK;3 REVERSED OPEN E WITH RETROFLEX HOOK",
     "3 SCHWA WITH RETROFLEX HOOK;3 I WITH RETROFLEX HOOK;3 OPEN O WITH RETROFLEX HOOK",
     "3 ESH WITH RETROFLEX HOOK;3 U WITH RETROFLEX HOOK;3 EZH WITH RETROFLEX HOOK",
     "MODIFIER LETTER SMALL TURNED ALPHA;3 C;4 WITH CURL;3 ETH;3 REVERSED OPEN E;3 F",
     "3 DOTLESS J WITH STROKE;3 SCRIPT G;3 TURNED H;3 I WITH STROKE;3 IOTA;3 CAPITAL I",
     "5 WITH STROKE;3 J WITH CROSSED-TAIL;3 L WITH RETROFLEX HOOK;5 PALATAL HOOK;3 CAPITAL L",
     "3 M WITH HOOK;3 TURNED M WITH LONG LEG;3 N WITH LEFT HOOK;5 RETROFLEX HOOK;3 CAPITAL N",
     "3 BARRED O;3 PHI;3 S WITH HOOK;3 ESH;3 T WITH PALATAL HOOK;3 U BAR;3 UPSILON;3 CAPITAL U",
     "3 V WITH HOOK;3 TURNED V;3 Z;4 WITH RETROFLEX HOOK;5 CURL;3 EZH;3 THETA",
     "COMBINING DOTTED GRAVE ACCENT;2 ACUTE ACCENT;1 SNAKE BELOW;1 SUSPENSION MARK",
     "1 MACRON-ACUTE;1 GRAVE-MACRON;1 MACRON-GRAVE;1 ACUTE-MACRON;1 GRAVE-ACUTE-GRAVE",
     "1 ACUTE-GRAVE-ACUTE;1 LATIN SMALL LETTER R BELOW;1 BREVE-MACRON;1 MACRON-BREVE",
     "1 DOUBLE CIRCUMFLEX ABOVE;1 OGONEK ABOVE;1 ZIGZAG BELOW;1 IS BELOW;1 UR ABOVE;1 US ABOVE",
     "1 LATIN SMALL LETTER FLATTENED OPEN A ABOVE;4 AE;4 AO;4 AV;4 C CEDILLA;4 INSULAR D;4 ETH",
     "4 G;2 LETTER SMALL CAPITAL G;2 SMALL LETTER K;4 L;2 LETTER SMALL CAPITAL L;5 M",
     "2 SMALL LETTER N;2 LETTER SMALL CAPITAL N;5 R;2 SMALL LETTER R ROTUNDA;4 S;4 LONG S;4 Z",
     "4 ALPHA;4 B;4 BETA;4 SCHWA;4 F;4 L WITH DOUBLE MIDDLE TILDE",
     "4 O WITH LIGHT CENTRALIZATION STROKE;4 P;4 ESH;4 U WITH LIGHT CENTRALIZATION STROKE;4 W",
     "4 A WITH DIAERESIS;4 O WITH DIAERESIS;4 U WITH DIAERESIS;1 UP TACK ABOVE",
     "1 KAVYKA ABOVE RIGHT;3 LEFT;1 DOT ABOVE LEFT;1 WIDE INVERTED BRIDGE BELOW",
     "1 DOT BELOW LEFT;1 DELETION MARK;1 DOUBLE INVERTED BREVE BELOW;1 ALMOST EQUAL TO BELOW",
     "1 LEFT ARROWHEAD ABOVE;1 RIGHT ARROWHEAD AND DOWN ARROWHEAD BELOW",
     "LATIN CAPITAL LETTER A WITH RING BELOW;1 SMALL LETTER A WITH RING BELOW",
     "1 CAPITAL LETTER B WITH DOT ABOVE;1 SMALL LETTER B WITH DOT ABOVE",
     "1 CAPITAL LETTER B WITH DOT BELOW;1 SMALL LETTER B WITH DOT BELOW",
     "1 CAPITAL LETTER B WITH LINE BELOW;1 SMALL LETTER B WITH LINE BELOW",
     "1 CAPITAL LETTER C WITH CEDILLA AND ACUTE;1 SMALL LETTER C WITH CEDILLA AND ACUTE",
     "1 CAPITAL LETTER D WITH DOT ABOVE;1 SMALL LETTER D WITH DOT ABOVE",
     "1 CAPITAL LETTER D WITH DOT BELOW;1 SMALL LETTER D WITH DOT BELOW",
     "1 CAPITAL LETTER D WITH LINE BELOW;1 SMALL LETTER D WITH LINE BELOW",
     "1 CAPITAL LETTER D WITH CEDILLA;1 SMALL LETTER D WITH CEDILLA",
     "1 CAPITAL LETTER D WITH CIRCUMFLEX BELOW;1 SMALL LETTER D WITH CIRCUMFLEX BELOW",
     "1 CAPITAL LETTER E WITH MACRON AND GRAVE;1 SMALL LETTER E WITH MACRON AND GRAVE",
     "1 CAPITAL LETTER E WITH MACRON AND ACUTE;1 SMALL LETTER E WITH MACRON AND ACUTE",
     "1 CAPITAL LETTER E WITH CIRCUMFLEX BELOW;1 SMALL LETTER E WITH CIRCUMFLEX BELOW",
     "1 CAPITAL LETTER E WITH TILDE BELOW;1 SMALL LETTER E WITH TILDE BELOW",
     "1 CAPITAL LETTER E WITH CEDILLA AND BREVE;1 SMALL LETTER E WITH CEDILLA AND BREVE",
     "1 CAPITAL LETTER F WITH DOT ABOVE;1 SMALL LETTER F WITH DOT ABOVE",
     "1 CAPITAL LETTER G WITH MACRON;1 SMALL LETTER G WITH MACRON",
     "1 CAPITAL LETTER H WITH DOT ABOVE;1 SMALL LETTER H WITH DOT ABOVE",
     "1 CAPITAL LETTER H WITH DOT BELOW;1 SMALL LETTER H WITH DOT BELOW",
     "1 CAPITAL LETTER H WITH DIAERESIS;1 SMALL LETTER H WITH DIAERESIS",
     "1 CAPITAL LETTER H WITH CEDILLA;1 SMALL LETTER H WITH CEDILLA",
     "1 CAPITAL LETTER H WITH BREVE BELOW;1 SMALL LETTER H WITH BREVE BELOW",
     "1 CAPITAL LETTER I WITH TILDE BELOW;1 SMALL LETTER I WITH TILDE BELOW",
     "1 CAPITAL LETTER I WITH DIAERESIS AND ACUTE;1 SMALL LETTER I WITH DIAERESIS AND ACUTE",
     "1 CAPITAL LETTER K WITH ACUTE;1 SMALL LETTER K WITH ACUTE",
     "1 CAPITAL LETTER K WITH DOT BELOW;1 SMALL LETTER K WITH DOT BELOW",
     "1 CAPITAL LETTER K WITH LINE BELOW;1 SMALL LETTER K WITH LINE BELOW",
     "1 CAPITAL LETTER L WITH DOT BELOW;1 SMALL LETTER L WITH DOT BELOW",
     "1 CAPITAL LETTER L WITH DOT BELOW AND MACRON;1 SMALL LETTER L WITH DOT BELOW AND MACRON",
     "1 CAPITAL LETTER L WITH LINE BELOW;1 SMALL LETTER L WITH LINE BELOW",
     "1 CAPITAL LETTER L WITH CIRCUMFLEX BELOW;1 SMALL LETTER L WITH CIRCUMFLEX BELOW",
     "1 CAPITAL LETTER M WITH ACUTE;1 SMALL LETTER M WITH ACUTE",
     "1 CAPITAL LETTER M WITH DOT ABOVE;1 SMALL LETTER M WITH DOT ABOVE",
     "1 CAPITAL LETTER M WITH DOT BELOW;1 SMALL LETTER M WITH DOT BELOW",
     "1 CAPITAL LETTER N WITH DOT ABOVE;1 SMALL LETTER N WITH DOT ABOVE",
     "1 CAPITAL LETTER N WITH DOT BELOW;1 SMALL LETTER N WITH DOT BELOW",
     "1 CAPITAL LETTER N WITH LINE BELOW;1 SMALL LETTER N WITH LINE BELOW",
     "1 CAPITAL LETTER N WITH CIRCUMFLEX BELOW;1 SMALL LETTER N WITH CIRCUMFLEX BELOW",
     "1 CAPITAL LETTER O WITH TILDE AND ACUTE;1 SMALL LETTER O WITH TILDE AND ACUTE",
     "1 CAPITAL LETTER O WITH TILDE AND DIAERESIS;1 SMALL LETTER O WITH TILDE AND DIAERESIS",
     "1 CAPITAL LETTER O WITH MACRON AND GRAVE;1 SMALL LETTER O WITH MACRON AND GRAVE",
     "1 CAPITAL LETTER O WITH MACRON AND ACUTE;1 SMALL LETTER O WITH MACRON AND ACUTE",
     "1 CAPITAL LETTER P WITH ACUTE;1 SMALL LETTER P WITH ACUTE",
     "1 CAPITAL LETTER P WITH DOT ABOVE;1 SMALL LETTER P WITH DOT ABOVE",
     "1 CAPITAL LETTER R WITH DOT ABOVE;1 SMALL LETTER R WITH DOT ABOVE",
     "1 CAPITAL LETTER R WITH DOT BELOW;1 SMALL LETTER R WITH DOT BELOW",
     "1 CAPITAL LETTER R WITH DOT BELOW AND MACRON;1 SMALL LETTER R WITH DOT BELOW AND MACRON",
     "1 CAPITAL LETTER R WITH LINE BELOW;1 SMALL LETTER R WITH LINE BELOW",
     "1 CAPITAL LETTER S WITH DOT ABOVE;1 SMALL LETTER S WITH DOT ABOVE",
     "1 CAPITAL LETTER S WITH DOT BELOW;1 SMALL LETTER S WITH DOT BELOW",
     "1 CAPITAL LETTER S WITH ACUTE AND DOT ABOVE;1 SMALL LETTER S WITH ACUTE AND DOT ABOVE",
     "1 CAPITAL LETTER S WITH CARON AND DOT ABOVE;1 SMALL LETTER S WITH CARON AND DOT ABOVE",
     "1 CAPITAL LETTER S WITH DOT BELOW AND DOT ABOVE",
     "1 SMALL LETTER S WITH DOT BELOW AND DOT ABOVE;1 CAPITAL LETTER T WITH DOT ABOVE",
     "1 SMALL LETTER T WITH DOT ABOVE;1 CAPITAL LETTER T WITH DOT BELOW",
     "1 SMALL LETTER T WITH DOT BELOW;1 CAPITAL LETTER T WITH LINE BELOW",
     "1 SMALL LETTER T WITH LINE BELOW;1 CAPITAL LETTER T WITH CIRCUMFLEX BELOW",
     "1 SMALL LETTER T WITH CIRCUMFLEX BELOW;1 CAPITAL LETTER U WITH DIAERESIS BELOW",
     "1 SMALL LETTER U WITH DIAERESIS BELOW;1 CAPITAL LETTER U WITH TILDE BELOW",
     "1 SMALL LETTER U WITH TILDE BELOW;1 CAPITAL LETTER U WITH CIRCUMFLEX BELOW",
     "1 SMALL LETTER U WITH CIRCUMFLEX BELOW;1 CAPITAL LETTER U WITH TILDE AND ACUTE",
     "1 SMALL LETTER U WITH TILDE AND ACUTE;1 CAPITAL LETTER U WITH MACRON AND DIAERESIS",
     "1 SMALL LETTER U WITH MACRON AND DIAERESIS;1 CAPITAL LETTER V WITH TILDE",
     "1 SMALL LETTER V WITH TILDE;1 CAPITAL LETTER V WITH DOT BELOW",
     "1 SMALL LETTER V WITH DOT BELOW;1 CAPITAL LETTER W WITH GRAVE",
     "1 SMALL LETTER W WITH GRAVE;1 CAPITAL LETTER W WITH ACUTE;1 SMALL LETTER W WITH ACUTE",
     "1 CAPITAL LETTER W WITH DIAERESIS;1 SMALL LETTER W WITH DIAERESIS",
     "1 CAPITAL LETTER W WITH DOT ABOVE;1 SMALL LETTER W WITH DOT ABOVE",
     "1 CAPITAL LETTER W WITH DOT BELOW;1 SMALL LETTER W WITH DOT BELOW",
     "1 CAPITAL LETTER X WITH DOT ABOVE;1 SMALL LETTER X WITH DOT ABOVE",
     "1 CAPITAL LETTER X WITH DIAERESIS;1 SMALL LETTER X WITH DIAERESIS",
     "1 CAPITAL LETTER Y WITH DOT ABOVE;1 SMALL LETTER Y WITH DOT ABOVE",
     "1 CAPITAL LETTER Z WITH CIRCUMFLEX;1 SMALL LETTER Z WITH CIRCUMFLEX",
     "1 CAPITAL LETTER Z WITH DOT BELOW;1 SMALL LETTER Z WITH DOT BELOW",
     "1 CAPITAL LETTER Z WITH LINE BELOW;1 SMALL LETTER Z WITH LINE BELOW;3 H WITH LINE BELOW",
     "3 T WITH DIAERESIS;3 W WITH RING ABOVE;3 Y WITH RING ABOVE;3 A WITH RIGHT HALF RING",
     "3 LONG S WITH DOT ABOVE;6 DIAGONAL STROKE;6 HIGH STROKE;1 CAPITAL LETTER SHARP S",
     "1 SMALL LETTER DELTA;1 CAPITAL LETTER A WITH DOT BELOW;1 SMALL LETTER A WITH DOT BELOW",
     "1 CAPITAL LETTER A WITH HOOK ABOVE;1 SMALL LETTER A WITH HOOK ABOVE",
     "1 CAPITAL LETTER A WITH CIRCUMFLEX AND ACUTE;1 SMALL LETTER A WITH CIRCUMFLEX AND ACUTE",
     "1 CAPITAL LETTER A WITH CIRCUMFLEX AND GRAVE;1 SMALL LETTER A WITH CIRCUMFLEX AND GRAVE",
     "1 CAPITAL LETTER A WITH CIRCUMFLEX AND HOOK ABOVE",
     "1 SMALL LETTER A WITH CIRCUMFLEX AND HOOK ABOVE",
     "1 CAPITAL LETTER A WITH CIRCUMFLEX AND TILDE;1 SMALL LETTER A WITH CIRCUMFLEX AND TILDE",
     "1 CAPITAL LETTER A WITH CIRCUMFLEX AND DOT BELOW",
     "1 SMALL LETTER A WITH CIRCUMFLEX AND DOT BELOW;1 CAPITAL LETTER A WITH BREVE AND ACUTE",
     "1 SMALL LETTER A WITH BREVE AND ACUTE;1 CAPITAL LETTER A WITH BREVE AND GRAVE",
     "1 SMALL LETTER A WITH BREVE AND GRAVE;1 CAPITAL LETTER A WITH BREVE AND HOOK ABOVE",
     "1 SMALL LETTER A WITH BREVE AND HOOK ABOVE;1 CAPITAL LETTER A WITH BREVE AND TILDE",
     "1 SMALL LETTER A WITH BREVE AND TILDE;1 CAPITAL LETTER A WITH BREVE AND DOT BELOW",
     "1 SMALL LETTER A WITH BREVE AND DOT BELOW;1 CAPITAL LETTER E WITH DOT BELOW",
     "1 SMALL LETTER E WITH DOT BELOW;1 CAPITAL LETTER E WITH HOOK ABOVE",
     "1 SMALL LETTER E WITH HOOK ABOVE;1 CAPITAL LETTER E WITH TILDE",
     "1 SMALL LETTER E WITH TILDE;1 CAPITAL LETTER E WITH CIRCUMFLEX AND ACUTE",
     "1 SMALL LETTER E WITH CIRCUMFLEX AND ACUTE;1 CAPITAL LETTER E WITH CIRCUMFLEX AND GRAVE",
     "1 SMALL LETTER E WITH CIRCUMFLEX AND GRAVE",
     "1 CAPITAL LETTER E WITH CIRCUMFLEX AND HOOK ABOVE",
     "1 SMALL LETTER E WITH CIRCUMFLEX AND HOOK ABOVE",
     "1 CAPITAL LETTER E WITH CIRCUMFLEX AND TILDE;1 SMALL LETTER E WITH CIRCUMFLEX AND TILDE",
     "1 CAPITAL LETTER E WITH CIRCUMFLEX AND DOT BELOW",
     "1 SMALL LETTER E WITH CIRCUMFLEX AND DOT BELOW;1 CAPITAL LETTER I WITH HOOK ABOVE",
     "1 SMALL LETTER I WITH HOOK ABOVE;1 CAPITAL LETTER I WITH DOT BELOW",
     "1 SMALL LETTER I WITH DOT BELOW;1 CAPITAL LETTER O WITH DOT BELOW",
     "1 SMALL LETTER O WITH DOT BELOW;1 CAPITAL LETTER O WITH HOOK ABOVE",
     "1 SMALL LETTER O WITH HOOK ABOVE;1 CAPITAL LETTER O WITH CIRCUMFLEX AND ACUTE",
     "1 SMALL LETTER O WITH CIRCUMFLEX AND ACUTE;1 CAPITAL LETTER O WITH CIRCUMFLEX AND GRAVE",
     "1 SMALL LETTER O WITH CIRCUMFLEX AND GRAVE",
     "1 CAPITAL LETTER O WITH CIRCUMFLEX AND HOOK ABOVE",
     "1 SMALL LETTER O WITH CIRCUMFLEX AND HOOK ABOVE",
     "1 CAPITAL LETTER O WITH CIRCUMFLEX AND TILDE;1 SMALL LETTER O WITH CIRCUMFLEX AND TILDE",
     "1 CAPITAL LETTER O WITH CIRCUMFLEX AND DOT BELOW",
     "1 SMALL LETTER O WITH CIRCUMFLEX AND DOT BELOW;1 CAPITAL LETTER O WITH HORN AND ACUTE",
     "1 SMALL LETTER O WITH HORN AND ACUTE;1 CAPITAL LETTER O WITH HORN AND GRAVE",
     "1 SMALL LETTER O WITH HORN AND GRAVE;1 CAPITAL LETTER O WITH HORN AND HOOK ABOVE",
     "1 SMALL LETTER O WITH HORN AND HOOK ABOVE;1 CAPITAL LETTER O WITH HORN AND TILDE",
     "1 SMALL LETTER O WITH HORN AND TILDE;1 CAPITAL LETTER O WITH HORN AND DOT BELOW",
     "1 SMALL LETTER O WITH HORN AND DOT BELOW;1 CAPITAL LETTER U WITH DOT BELOW",
     "1 SMALL LETTER U WITH DOT BELOW;1 CAPITAL LETTER U WITH HOOK ABOVE",
     "1 SMALL LETTER U WITH HOOK ABOVE;1 CAPITAL LETTER U WITH HORN AND ACUTE",
     "1 SMALL LETTER U WITH HORN AND ACUTE;1 CAPITAL LETTER U WITH HORN AND GRAVE",
     "1 SMALL LETTER U WITH HORN AND GRAVE;1 CAPITAL LETTER U WITH HORN AND HOOK ABOVE",
     "1 SMALL LETTER U WITH HORN AND HOOK ABOVE;1 CAPITAL LETTER U WITH HORN AND TILDE",
     "1 SMALL LETTER U WITH HORN AND TILDE;1 CAPITAL LETTER U WITH HORN AND DOT BELOW",
     "1 SMALL LETTER U WITH HORN AND DOT BELOW;1 CAPITAL LETTER Y WITH GRAVE",
     "1 SMALL LETTER Y WITH GRAVE;1 CAPITAL LETTER Y WITH DOT BELOW",
     "1 SMALL LETTER Y WITH DOT BELOW;1 CAPITAL LETTER Y WITH HOOK ABOVE",
     "1 SMALL LETTER Y WITH HOOK ABOVE;1 CAPITAL LETTER Y WITH TILDE",
     "1 SMALL LETTER Y WITH TILDE;1 CAPITAL LETTER MIDDLE-WELSH LL",
     "1 SMALL LETTER MIDDLE-WELSH LL;1 CAPITAL LETTER MIDDLE-WELSH V",
     "1 SMALL LETTER MIDDLE-WELSH V;1 CAPITAL LETTER Y WITH LOOP;1 SMALL LETTER Y WITH LOOP",
     "GREEK SMALL LETTER ALPHA WITH PSILI;5 DASIA;5 PSILI AND VARIA;5 DASIA AND VARIA",
     "5 PSILI AND OXIA;5 DASIA AND OXIA;5 PSILI AND PERISPOMENI;5 DASIA AND PERISPOMENI",
     "1 CAPITAL LETTER ALPHA WITH PSILI;5 DASIA;5 PSILI AND VARIA;5 DASIA AND VARIA",
     "5 PSILI AND OXIA;5 DASIA AND OXIA;5 PSILI AND PERISPOMENI;5 DASIA AND PERISPOMENI",
     "1 SMALL LETTER EPSILON WITH PSILI;5 DASIA;5 PSILI AND VARIA;5 DASIA AND VARIA",
     "5 PSILI AND OXIA;5 DASIA AND OXIA"]),
   (7960,
    ["GREEK CAPITAL LETTER EPSILON WITH PSILI;5 DASIA;5 PSILI AND VARIA;5 DASIA AND VARIA",
     "5 PSILI AND OXIA;5 DASIA AND OXIA"]),
   (7968,
    ["GREEK SMALL LETTER ETA WITH PSILI;5 DASIA;5 PSILI AND VARIA;5 DASIA AND VARIA",
     "5 PSILI AND OXIA;5 DASIA AND OXIA;5 PSILI AND PERISPOMENI;5 DASIA AND PERISPOMENI",
     "1 CAPITAL LETTER ETA WITH PSILI;5 DASIA;5 PSILI AND VARIA;5 DASIA AND VARIA",
     "5 PSILI AND OXIA;5 DASIA AND OXIA;5 PSILI AND PERISPOMENI;5 DASIA AND PERISPOMENI",
     "1 SMALL LETTER IOTA WITH PSILI;5 DASIA;5 PSILI AND VARIA;5 DASIA AND VARIA",
     "5 PSILI AND OXIA;5 DASIA AND OXIA;5 PSILI AND PERISPOMENI;5 DASIA AND PERISPOMENI",
     "1 CAPITAL LETTER IOTA WITH PSILI;5 DASIA;5 PSILI AND VARIA;5 DASIA AND VARIA",
     "5 PSILI AND OXIA;5 DASIA AND OXIA;5 PSILI AND PERISPOMENI;5 DASIA AND PERISPOMENI",
     "1 SMALL LETTER OMICRON WITH PSILI;5 DASIA;5 PSILI AND VARIA;5 DASIA AND VARIA",
     "5 PSILI AND OXIA;5 DASIA AND OXIA"]),
   (8008,
    ["GREEK CAPITAL LETTER OMICRON WITH PSILI;5 DASIA;5 PSILI AND VARIA;5 DASIA AND VARIA",
     "5 PSILI AND OXIA;5 DASIA AND OXIA"]),
   (8016,
    ["GREEK SMALL LETTER UPSILON WITH PSILI;5 DASIA;5 PSILI AND VARIA;5 DASIA AND VARIA",
     "5 PSILI AND OXIA;5 DASIA AND OXIA;5 PSILI AND PERISPOMENI;5 DASIA AND PERISPOMENI"]),
   (8025, ["GREEK CAPITAL LETTER UPSILON WITH DASIA"]),
   (8027, ["GREEK CAPITAL LETTER UPSILON WITH DASIA AND VARIA"]),
   (8029, ["GREEK CAPITAL LETTER UPSILON WITH DASIA AND OXIA"]),
   (8031,
    ["GREEK CAPITAL LETTER UPSILON WITH DASIA AND PERISPOMENI;1 SMALL LETTER OMEGA WITH PSILI",
     "5 DASIA;5 PSILI AND VARIA;5 DASIA AND VARIA;5 PSILI AND OXIA;5 DASIA AND OXIA",
     "5 PSILI AND PERISPOMENI;5 DASIA AND PERISPOMENI;1 CAPITAL LETTER OMEGA WITH PSILI",
     "5 DASIA;5 PSILI AND VARIA;5 DASIA AND VARIA;5 PSILI AND OXIA;5 DASIA AND OXIA",
     "5 PSILI AND PERISPOMENI;5 DASIA AND PERISPOMENI;1 SMALL LETTER ALPHA WITH VARIA;5 OXIA",
     "3 EPSILON WITH VARIA;5 OXIA;3 ETA WITH VARIA;5 OXIA;3 IOTA WITH VARIA;5 OXIA",
     "3 OMICRON WITH VARIA;5 OXIA;3 UPSILON WITH VARIA;5 OXIA;3 OMEGA WITH VARIA;5 OXIA"]),
   (8064,
    ["GREEK SMALL LETTER ALPHA WITH PSILI AND YPOGEGRAMMENI;5 DASIA AND YPOGEGRAMMENI",
     "5 PSILI AND VARIA AND YPOGEGRAMMENI;5 DASIA AND VARIA AND YPOGEGRAMMENI",
     "5 PSILI AND OXIA AND YPOGEGRAMMENI;5 DASIA AND OXIA AND YPOGEGRAMMENI",
     "5 PSILI AND PERISPOMENI AND YPOGEGRAMMENI;5 DASIA AND PERISPOMENI AND YPOGEGRAMMENI",
     "1 CAPITAL LETTER ALPHA WITH PSILI AND PROSGEGRAMMENI;5 DASIA AND PROSGEGRAMMENI",
     "5 PSILI AND VARIA AND PROSGEGRAMMENI;5 DASIA AND VARIA AND PROSGEGRAMMENI",
     "5 PSILI AND OXIA AND PROSGEGRAMMENI;5 DASIA AND OXIA AND PROSGEGRAMMENI",
     "5 PSILI AND PERISPOMENI AND PROSGEGRAMMENI;5 DASIA AND PERISPOMENI AND PROSGEGRAMMENI",
     "1 SMALL LETTER ETA WITH PSILI AND YPOGEGRAMMENI;5 DASIA AND YPOGEGRAMMENI",
     "5 PSILI AND VARIA AND YPOGEGRAMMENI;5 DASIA AND VARIA AND YPOGEGRAMMENI",
     "5 PSILI AND OXIA AND YPOGEGRAMMENI;5 DASIA AND OXIA AND YPOGEGRAMMENI",
     "5 PSILI AND PERISPOMENI AND YPOGEGRAMMENI;5 DASIA AND PERISPOMENI AND YPOGEGRAMMENI",
     "1 CAPITAL LETTER ETA WITH PSILI AND PROSGEGRAMMENI;5 DASIA AND PROSGEGRAMMENI",
     "5 PSILI AND VARIA AND PROSGEGRAMMENI;5 DASIA AND VARIA AND PROSGEGRAMMENI",
     "5 PSILI AND OXIA AND PROSGEGRAMMENI;5 DASIA AND OXIA AND PROSGEGRAMMENI",
     "5 PSILI AND PERISPOMENI AND PROSGEGRAMMENI;5 DASIA AND PERISPOMENI AND PROSGEGRAMMENI",
     "1 SMALL LETTER OMEGA WITH PSILI AND YPOGEGRAMMENI;5 DASIA AND YPOGEGRAMMENI",
     "5 PSILI AND VARIA AND YPOGEGRAMMENI;5 DASIA AND VARIA AND YPOGEGRAMMENI",
     "5 PSILI AND OXIA AND YPOGEGRAMMENI;5 DASIA AND OXIA AND YPOGEGRAMMENI",
     "5 PSILI AND PERISPOMENI AND YPOGEGRAMMENI;5 DASIA AND PERISPOMENI AND YPOGEGRAMMENI",
     "1 CAPITAL LETTER OMEGA WITH PSILI AND PROSGEGRAMMENI;5 DASIA AND PROSGEGRAMMENI",
     "5 PSILI AND VARIA AND PROSGEGRAMMENI;5 DASIA AND VARIA AND PROSGEGRAMMENI",
     "5 PSILI AND OXIA AND PROSGEGRAMMENI;5 DASIA AND OXIA AND PROSGEGRAMMENI",
     "5 PSILI AND PERISPOMENI AND PROSGEGRAMMENI;5 DASIA AND PERISPOMENI AND PROSGEGRAMMENI",
     "1 SMALL LETTER ALPHA WITH VRACHY;5 MACRON;5 VARIA AND YPOGEGRAMMENI;5 YPOGEGRAMMENI",
     "5 OXIA AND YPOGEGRAMMENI"]),
   (8118,
    ["GREEK SMALL LETTER ALPHA WITH PERISPOMENI;6 AND YPOGEGRAMMENI",
     "1 CAPITAL LETTER ALPHA WITH VRACHY;5 MACRON;5 VARIA;5 OXIA;5 PROSGEGRAMMENI;1 KORONIS",
     "1 PROSGEGRAMMENI;1 PSILI;1 PERISPOMENI;1 DIALYTIKA AND PERISPOMENI",
     "1 SMALL LETTER ETA WITH VARIA AND YPOGEGRAMMENI;5 YPOGEGRAMMENI;5 OXIA AND YPOGEGRAMMENI"]),
   (8134,
    ["GREEK SMALL LETTER ETA WITH PERISPOMENI;6 AND YPOGEGRAMMENI",
     "1 CAPITAL LETTER EPSILON WITH VARIA;5 OXIA;3 ETA WITH VARIA;5 OXIA;5 PROSGEGRAMMENI",
     "1 PSILI AND VARIA;3 OXIA;3 PERISPOMENI;1 SMALL LETTER IOTA WITH VRACHY;5 MACRON",
     "5 DIALYTIKA AND VARIA;7 OXIA"]),
   (8150,
    ["GREEK SMALL LETTER IOTA WITH PERISPOMENI;5 DIALYTIKA AND PERISPOMENI",
     "1 CAPITAL LETTER IOTA WITH VRACHY;5 MACRON;5 VARIA;5 OXIA"]),
   (8157,
    ["GREEK DASIA AND VARIA;3 OXIA;3 PERISPOMENI;1 SMALL LETTER UPSILON WITH VRACHY;5 MACRON",
     "5 DIALYTIKA AND VARIA;7 OXIA;3 RHO WITH PSILI;5 DASIA;3 UPSILON WITH PERISPOMENI",
     "5 DIALYTIKA AND PERISPOMENI;1 CAPITAL LETTER UPSILON WITH VRACHY;5 MACRON;5 VARIA;5 OXIA",
     "3 RHO WITH DASIA;1 DIALYTIKA AND VARIA;3 OXIA;1 VARIA"]),
   (8178,
    ["GREEK SMALL LETTER OMEGA WITH VARIA AND YPOGEGRAMMENI;5 YPOGEGRAMMENI",
     "5 OXIA AND YPOGEGRAMMENI"]),
   (8182,
    ["GREEK SMALL LETTER OMEGA WITH PERISPOMENI;6 AND YPOGEGRAMMENI",
     "1 CAPITAL LETTER OMICRON WITH VARIA;5 OXIA;3 OMEGA WITH VARIA;5 OXIA;5 PROSGEGRAMMENI",
     "1 OXIA;1 DASIA"]),
   (8192,
    ["EN QUAD;EM QUAD;EN SPACE;EM SPACE;THREE-PER-EM SPACE;FOUR-PER-EM SPACE;SIX-PER-EM SPACE",
     "FIGURE SPACE;PUNCTUATION SPACE;THIN SPACE;HAIR SPACE;ZERO WIDTH SPACE;2 NON-JOINER",
     "2 JOINER;LEFT-TO-RIGHT MARK;RIGHT-TO-LEFT MARK;HYPHEN;NON-BREAKING HYPHEN;FIGURE DASH",
     "EN DASH;EM DASH;HORIZONTAL BAR;DOUBLE VERTICAL LINE;1 LOW LINE",
     "LEFT SINGLE QUOTATION MARK;RIGHT SINGLE QUOTATION MARK;SINGLE LOW-9 QUOTATION MARK",
     "1 HIGH-REVERSED-9 QUOTATION MARK;LEFT DOUBLE QUOTATION MARK;RIGHT DOUBLE QUOTATION MARK",
     "DOUBLE LOW-9 QUOTATION MARK;1 HIGH-REVERSED-9 QUOTATION MARK;DAGGER;DOUBLE DAGGER;BULLET",
     "TRIANGULAR BULLET;ONE DOT LEADER;TWO DOT LEADER;HORIZONTAL ELLIPSIS;HYPHENATION POINT",
     "LINE SEPARATOR;PARAGRAPH SEPARATOR;LEFT-TO-RIGHT EMBEDDING;RIGHT-TO-LEFT EMBEDDING",
     "POP DIRECTIONAL FORMATTING;LEFT-TO-RIGHT OVERRIDE;RIGHT-TO-LEFT OVERRIDE",
     "NARROW NO-BREAK SPACE;PER MILLE SIGN;1 TEN THOUSAND SIGN;PRIME;DOUBLE PRIME;TRIPLE PRIME",
     "REVERSED PRIME;1 DOUBLE PRIME;1 TRIPLE PRIME;CARET",
     "SINGLE LEFT-POINTING ANGLE QUOTATION MARK;1 RIGHT-POINTING ANGLE QUOTATION MARK",
     "REFERENCE MARK;DOUBLE EXCLAMATION MARK;INTERROBANG;OVERLINE;UNDERTIE;CHARACTER TIE",
     "CARET INSERTION POINT;ASTERISM;HYPHEN BULLET;FRACTION SLASH",
     "LEFT SQUARE BRACKET WITH QUILL;RIGHT SQUARE BRACKET WITH QUILL;DOUBLE QUESTION MARK",
     "QUESTION EXCLAMATION MARK;EXCLAMATION QUESTION MARK;TIRONIAN SIGN ET",
     "REVERSED PILCROW SIGN;BLACK LEFTWARDS BULLET;1 RIGHTWARDS BULLET;LOW ASTERISK",
     "REVERSED SEMICOLON;CLOSE UP;TWO ASTERISKS ALIGNED VERTICALLY;COMMERCIAL MINUS SIGN",
     "SWUNG DASH;INVERTED UNDERTIE;FLOWER PUNCTUATION MARK;THREE DOT PUNCTUATION",
     "QUADRUPLE PRIME;FOUR DOT PUNCTUATION;FIVE DOT PUNCTUATION;TWO DOT PUNCTUATION",
     "FOUR DOT MARK;DOTTED CROSS;TRICOLON;VERTICAL FOUR DOTS;MEDIUM MATHEMATICAL SPACE",
     "WORD JOINER;FUNCTION APPLICATION;INVISIBLE TIMES;1 SEPARATOR;1 PLUS"]),
   (8294,
    ["LEFT-TO-RIGHT ISOLATE;RIGHT-TO-LEFT ISOLATE;FIRST STRONG ISOLATE;POP DIRECTIONAL ISOLATE",
     "INHIBIT SYMMETRIC SWAPPING;ACTIVATE SYMMETRIC SWAPPING;INHIBIT ARABIC FORM SHAPING",
     "ACTIVATE ARABIC FORM SHAPING;NATIONAL DIGIT SHAPES;NOMINAL DIGIT SHAPES;SUPERSCRIPT ZERO",
     "1 LATIN SMALL LETTER I"]),
   (8308,
    ["SUPERSCRIPT FOUR;1 FIVE;1 SIX;1 SEVEN;1 EIGHT;1 NINE;1 PLUS SIGN;1 MINUS;1 EQUALS SIGN",
     "1 LEFT PARENTHESIS;1 RIGHT PARENTHESIS;1 LATIN SMALL LETTER N;SUBSCRIPT ZERO;1 ONE;1 TWO",
     "1 THREE;1 FOUR;1 FIVE;1 SIX;1 SEVEN;1 EIGHT;1 NINE;1 PLUS SIGN;1 MINUS;1 EQUALS SIGN",
     "1 LEFT PARENTHESIS;1 RIGHT PARENTHESIS"]),
   (8336, ["LATIN SUBSCRIPT SMALL LETTER A;4 E;4 O;4 X;4 SCHWA;4 H;4 K;4 L;4 M;4 N;4 P;4 S;4 T"]),
   (8352,
    ["EURO-CURRENCY SIGN;COLON SIGN;CRUZEIRO SIGN;FRENCH FRANC SIGN;LIRA SIGN;MILL SIGN",
     "NAIRA SIGN;PESETA SIGN;RUPEE SIGN;WON SIGN;NEW SHEQEL SIGN;DONG SIGN;EURO SIGN;KIP SIGN",
     "TUGRIK SIGN;DRACHMA SIGN;GERMAN PENNY SIGN;PESO SIGN;GUARANI SIGN;AUSTRAL SIGN",
     "HRYVNIA SIGN;CEDI SIGN;LIVRE TOURNOIS SIGN;SPESMILO SIGN;TENGE SIGN;INDIAN RUPEE SIGN",
     "TURKISH LIRA SIGN;NORDIC MARK SIGN;MANAT SIGN;RUBLE SIGN;LARI SIGN;BITCOIN SIGN;SOM SIGN"]),
   (8400,
    ["COMBINING LEFT HARPOON ABOVE;1 RIGHT HARPOON ABOVE;1 LONG VERTICAL LINE OVERLAY",
     "1 SHORT VERTICAL LINE OVERLAY;1 ANTICLOCKWISE ARROW ABOVE;1 CLOCKWISE ARROW ABOVE",
     "1 LEFT ARROW ABOVE;1 RIGHT ARROW ABOVE;1 RING OVERLAY;1 CLOCKWISE RING OVERLAY",
     "1 ANTICLOCKWISE RING OVERLAY;1 THREE DOTS ABOVE;1 FOUR DOTS ABOVE;1 ENCLOSING CIRCLE",
     "2 SQUARE;2 DIAMOND;2 CIRCLE BACKSLASH;1 LEFT RIGHT ARROW ABOVE;1 ENCLOSING SCREEN",
     "2 KEYCAP;2 UPWARD POINTING TRIANGLE;1 REVERSE SOLIDUS OVERLAY",
     "1 DOUBLE VERTICAL STROKE OVERLAY;1 ANNUITY SYMBOL;1 TRIPLE UNDERDOT;1 WIDE BRIDGE ABOVE",
     "1 LEFTWARDS ARROW OVERLAY;1 LONG DOUBLE SOLIDUS OVERLAY",
     "1 RIGHTWARDS HARPOON WITH BARB DOWNWARDS;1 LEFTWARDS HARPOON WITH BARB DOWNWARDS",
     "1 LEFT ARROW BELOW;1 RIGHT ARROW BELOW;1 ASTERISK ABOVE"]),
   (8448,
    ["ACCOUNT OF;ADDRESSED TO THE SUBJECT;DOUBLE-STRUCK CAPITAL C;DEGREE CELSIUS",
     "CENTRE LINE SYMBOL;CARE OF;CADA UNA;EULER CONSTANT;SCRUPLE;DEGREE FAHRENHEIT",
     "SCRIPT SMALL G;1 CAPITAL H;BLACK-LETTER CAPITAL H;DOUBLE-STRUCK CAPITAL H",
     "PLANCK CONSTANT;2 OVER TWO PI;SCRIPT CAPITAL I;BLACK-LETTER CAPITAL I;SCRIPT CAPITAL L",
     "1 SMALL L;L B BAR SYMBOL;DOUBLE-STRUCK CAPITAL N;NUMERO SIGN;SOUND RECORDING COPYRIGHT",
     "SCRIPT CAPITAL P;DOUBLE-STRUCK CAPITAL P;2 Q;SCRIPT CAPITAL R;BLACK-LETTER CAPITAL R",
     "DOUBLE-STRUCK CAPITAL R;PRESCRIPTION TAKE;RESPONSE;SERVICE MARK;TELEPHONE SIGN",
     "TRADE MARK SIGN;VERSICLE;DOUBLE-STRUCK CAPITAL Z;OUNCE SIGN;OHM SIGN;INVERTED OHM SIGN",
     "BLACK-LETTER CAPITAL Z;TURNED GREEK SMALL LETTER IOTA;KELVIN SIGN;ANGSTROM SIGN",
     "SCRIPT CAPITAL B;BLACK-LETTER CAPITAL C;ESTIMATED SYMBOL;SCRIPT SMALL E;1 CAPITAL E;2 F",
     "TURNED CAPITAL F;SCRIPT CAPITAL M;1 SMALL O;ALEF SYMBOL;BET SYMBOL;GIMEL SYMBOL",
     "DALET SYMBOL;INFORMATION SOURCE;ROTATED CAPITAL Q;FACSIMILE SIGN;DOUBLE-STRUCK SMALL PI",
     "2 GAMMA;1 CAPITAL GAMMA;2 PI;1 N-ARY SUMMATION;TURNED SANS-SERIF CAPITAL G;3 L",
     "REVERSED SANS-SERIF CAPITAL L;TURNED SANS-SERIF CAPITAL Y;DOUBLE-STRUCK ITALIC CAPITAL D",
     "2 SMALL D;3 E;3 I;3 J;PROPERTY LINE;TURNED AMPERSAND;PER SIGN;AKTIESELSKAB",
     "TURNED SMALL F;SYMBOL FOR SAMARITAN SOURCE;VULGAR FRACTION ONE SEVENTH;3 NINTH;3 TENTH",
     "3 THIRD;2 TWO THIRDS;2 ONE FIFTH;2 TWO FIFTHS;2 THREE FIFTHS;2 FOUR FIFTHS;2 ONE SIXTH",
     "2 FIVE SIXTHS;2 ONE EIGHTH;2 THREE EIGHTHS;2 FIVE EIGHTHS;2 SEVEN EIGHTHS",
     "FRACTION NUMERATOR ONE;ROMAN NUMERAL ONE;2 TWO;2 THREE;2 FOUR;2 FIVE;2 SIX;2 SEVEN",
     "2 EIGHT;2 NINE;2 TEN;2 ELEVEN;2 TWELVE;2 FIFTY;2 ONE HUNDRED;2 FIVE HUNDRED",
     "2 ONE THOUSAND;SMALL ROMAN NUMERAL ONE;3 TWO;3 THREE;3 FOUR;3 FIVE;3 SIX;3 SEVEN;3 EIGHT",
     "3 NINE;3 TEN;3 ELEVEN;3 TWELVE;3 FIFTY;3 ONE HUNDRED;3 FIVE HUNDRED;3 ONE THOUSAND",
     "ROMAN NUMERAL ONE THOUSAND C D;2 FIVE THOUSAND;2 TEN THOUSAND;2 REVERSED ONE HUNDRED",
     "LATIN SMALL LETTER REVERSED C;ROMAN NUMERAL SIX LATE FORM;2 FIFTY EARLY FORM;3 THOUSAND",
     "2 ONE HUNDRED THOUSAND;VULGAR FRACTION ZERO THIRDS;TURNED DIGIT TWO;2 THREE"]),
   (8592,
    ["LEFTWARDS ARROW;UPWARDS ARROW;RIGHTWARDS ARROW;DOWNWARDS ARROW;LEFT RIGHT ARROW",
     "UP DOWN ARROW;NORTH WEST ARROW;1 EAST ARROW;SOUTH EAST ARROW;1 WEST ARROW",
     "LEFTWARDS ARROW WITH STROKE;RIGHTWARDS ARROW WITH STROKE;LEFTWARDS WAVE ARROW",
     "RIGHTWARDS WAVE ARROW;LEFTWARDS TWO HEADED ARROW;UPWARDS TWO HEADED ARROW",
     "RIGHTWARDS TWO HEADED ARROW;DOWNWARDS TWO HEADED ARROW;LEFTWARDS ARROW WITH TAIL",
     "RIGHTWARDS ARROW WITH TAIL;LEFTWARDS ARROW FROM BAR;UPWARDS ARROW FROM BAR",
     "RIGHTWARDS ARROW FROM BAR;DOWNWARDS ARROW FROM BAR;UP DOWN ARROW WITH BASE",
     "LEFTWARDS ARROW WITH HOOK;RIGHTWARDS ARROW WITH HOOK;LEFTWARDS ARROW WITH LOOP",
     "RIGHTWARDS ARROW WITH LOOP;LEFT RIGHT WAVE ARROW;2 ARROW WITH STROKE",
     "DOWNWARDS ZIGZAG ARROW;UPWARDS ARROW WITH TIP LEFTWARDS;4 RIGHTWARDS",
     "DOWNWARDS ARROW WITH TIP LEFTWARDS;4 RIGHTWARDS;RIGHTWARDS ARROW WITH CORNER DOWNWARDS",
     "DOWNWARDS ARROW WITH CORNER LEFTWARDS;ANTICLOCKWISE TOP SEMICIRCLE ARROW",
     "CLOCKWISE TOP SEMICIRCLE ARROW;NORTH WEST ARROW TO LONG BAR",
     "LEFTWARDS ARROW TO BAR OVER RIGHTWARDS ARROW TO BAR;ANTICLOCKWISE OPEN CIRCLE ARROW",
     "CLOCKWISE OPEN CIRCLE ARROW;LEFTWARDS HARPOON WITH BARB UPWARDS;4 DOWNWARDS",
     "UPWARDS HARPOON WITH BARB RIGHTWARDS;4 LEFTWARDS;RIGHTWARDS HARPOON WITH BARB UPWARDS",
     "4 DOWNWARDS;DOWNWARDS HARPOON WITH BARB RIGHTWARDS;4 LEFTWARDS",
     "RIGHTWARDS ARROW OVER LEFTWARDS ARROW;UPWARDS ARROW LEFTWARDS OF DOWNWARDS ARROW",
     "LEFTWARDS ARROW OVER RIGHTWARDS ARROW;1 PAIRED ARROWS;UPWARDS PAIRED ARROWS",
     "RIGHTWARDS PAIRED ARROWS;DOWNWARDS PAIRED ARROWS",
     "LEFTWARDS HARPOON OVER RIGHTWARDS HARPOON;RIGHTWARDS HARPOON OVER LEFTWARDS HARPOON",
     "LEFTWARDS DOUBLE ARROW WITH STROKE;LEFT RIGHT DOUBLE ARROW WITH STROKE",
     "RIGHTWARDS DOUBLE ARROW WITH STROKE;LEFTWARDS DOUBLE ARROW;UPWARDS DOUBLE ARROW",
     "RIGHTWARDS DOUBLE ARROW;DOWNWARDS DOUBLE ARROW;LEFT RIGHT DOUBLE ARROW",
     "UP DOWN DOUBLE ARROW;NORTH WEST DOUBLE ARROW;1 EAST DOUBLE ARROW;SOUTH EAST DOUBLE ARROW",
     "1 WEST DOUBLE ARROW;LEFTWARDS TRIPLE ARROW;RIGHTWARDS TRIPLE ARROW",
     "LEFTWARDS SQUIGGLE ARROW;RIGHTWARDS SQUIGGLE ARROW;UPWARDS ARROW WITH DOUBLE STROKE",
     "DOWNWARDS ARROW WITH DOUBLE STROKE;LEFTWARDS DASHED ARROW;UPWARDS DASHED ARROW",
     "RIGHTWARDS DASHED ARROW;DOWNWARDS DASHED ARROW;LEFTWARDS ARROW TO BAR",
     "RIGHTWARDS ARROW TO BAR;LEFTWARDS WHITE ARROW;UPWARDS WHITE ARROW;RIGHTWARDS WHITE ARROW",
     "DOWNWARDS WHITE ARROW;UPWARDS WHITE ARROW FROM BAR;3 ON PEDESTAL;5 WITH HORIZONTAL BAR",
     "6 VERTICAL BAR;2 DOUBLE ARROW;4 ON PEDESTAL;RIGHTWARDS WHITE ARROW FROM WALL",
     "NORTH WEST ARROW TO CORNER;SOUTH EAST ARROW TO CORNER;UP DOWN WHITE ARROW",
     "RIGHT ARROW WITH SMALL CIRCLE;DOWNWARDS ARROW LEFTWARDS OF UPWARDS ARROW",
     "THREE RIGHTWARDS ARROWS;LEFTWARDS ARROW WITH VERTICAL STROKE",
     "RIGHTWARDS ARROW WITH VERTICAL STROKE;LEFT RIGHT ARROW WITH VERTICAL STROKE",
     "LEFTWARDS ARROW WITH DOUBLE VERTICAL STROKE;RIGHTWARDS ARROW WITH DOUBLE VERTICAL STROKE",
     "LEFT RIGHT ARROW WITH DOUBLE VERTICAL STROKE;LEFTWARDS OPEN-HEADED ARROW",
     "RIGHTWARDS OPEN-HEADED ARROW;LEFT RIGHT OPEN-HEADED ARROW;FOR ALL;COMPLEMENT",
     "PARTIAL DIFFERENTIAL;THERE EXISTS;1 DOES NOT EXIST;EMPTY SET;INCREMENT;NABLA;ELEMENT OF",
     "NOT AN ELEMENT OF;SMALL ELEMENT OF;CONTAINS AS MEMBER;DOES NOT CONTAIN AS MEMBER",
     "SMALL CONTAINS AS MEMBER;END OF PROOF;N-ARY PRODUCT;1 COPRODUCT;1 SUMMATION;MINUS SIGN",
     "MINUS-OR-PLUS SIGN;DOT PLUS;DIVISION SLASH;SET MINUS;ASTERISK OPERATOR;RING OPERATOR",
     "BULLET OPERATOR;SQUARE ROOT;CUBE ROOT;FOURTH ROOT;PROPORTIONAL TO;INFINITY;RIGHT ANGLE",
     "ANGLE;MEASURED ANGLE;SPHERICAL ANGLE;DIVIDES;DOES NOT DIVIDE;PARALLEL TO;NOT PARALLEL TO",
     "LOGICAL AND;1 OR;INTERSECTION;UNION;INTEGRAL;DOUBLE INTEGRAL;TRIPLE INTEGRAL",
     "CONTOUR INTEGRAL;SURFACE INTEGRAL;VOLUME INTEGRAL;CLOCKWISE INTEGRAL;1 CONTOUR INTEGRAL",
     "ANTICLOCKWISE CONTOUR INTEGRAL;THEREFORE;BECAUSE;RATIO;PROPORTION;DOT MINUS;EXCESS",
     "GEOMETRIC PROPORTION;HOMOTHETIC;TILDE OPERATOR;REVERSED TILDE;INVERTED LAZY S;SINE WAVE",
     "WREATH PRODUCT;NOT TILDE;MINUS TILDE;ASYMPTOTICALLY EQUAL TO;NOT ASYMPTOTICALLY EQUAL TO",
     "APPROXIMATELY EQUAL TO;1 BUT NOT ACTUALLY EQUAL TO",
     "NEITHER APPROXIMATELY NOR ACTUALLY EQUAL TO;ALMOST EQUAL TO;NOT ALMOST EQUAL TO",
     "ALMOST EQUAL OR EQUAL TO;TRIPLE TILDE;ALL EQUAL TO;EQUIVALENT TO",
     "GEOMETRICALLY EQUIVALENT TO;DIFFERENCE BETWEEN;APPROACHES THE LIMIT",
     "GEOMETRICALLY EQUAL TO;APPROXIMATELY EQUAL TO OR THE IMAGE OF",
     "IMAGE OF OR APPROXIMATELY EQUAL TO;COLON EQUALS;EQUALS COLON;RING IN EQUAL TO;1 EQUAL TO",
     "CORRESPONDS TO;ESTIMATES;EQUIANGULAR TO;STAR EQUALS;DELTA EQUAL TO",
     "EQUAL TO BY DEFINITION;MEASURED BY;QUESTIONED EQUAL TO;NOT EQUAL TO;IDENTICAL TO",
     "NOT IDENTICAL TO;STRICTLY EQUIVALENT TO;LESS-THAN OR EQUAL TO;GREATER-THAN OR EQUAL TO",
     "LESS-THAN OVER EQUAL TO;GREATER-THAN OVER EQUAL TO;LESS-THAN BUT NOT EQUAL TO",
     "GREATER-THAN BUT NOT EQUAL TO;MUCH LESS-THAN;1 GREATER-THAN;BETWEEN;NOT EQUIVALENT TO",
     "1 LESS-THAN;1 GREATER-THAN;NEITHER LESS-THAN NOR EQUAL TO;1 GREATER-THAN NOR EQUAL TO",
     "LESS-THAN OR EQUIVALENT TO;GREATER-THAN OR EQUIVALENT TO",
     "NEITHER LESS-THAN NOR EQUIVALENT TO;1 GREATER-THAN NOR EQUIVALENT TO",
     "LESS-THAN OR GREATER-THAN;GREATER-THAN OR LESS-THAN;NEITHER LESS-THAN NOR GREATER-THAN",
     "1 GREATER-THAN NOR LESS-THAN;PRECEDES;SUCCEEDS;PRECEDES OR EQUAL TO;SUCCEEDS OR EQUAL TO",
     "PRECEDES OR EQUIVALENT TO;SUCCEEDS OR EQUIVALENT TO;DOES NOT PRECEDE;2 SUCCEED;SUBSET OF",
     "SUPERSET OF;NOT A SUBSET OF;2 SUPERSET OF;SUBSET OF OR EQUAL TO;SUPERSET OF OR EQUAL TO",
     "NEITHER A SUBSET OF NOR EQUAL TO;2 SUPERSET OF NOR EQUAL TO;SUBSET OF WITH NOT EQUAL TO",
     "SUPERSET OF WITH NOT EQUAL TO;MULTISET;1 MULTIPLICATION;1 UNION;SQUARE IMAGE OF",
     "1 ORIGINAL OF;1 IMAGE OF OR EQUAL TO;1 ORIGINAL OF OR EQUAL TO;1 CAP;1 CUP;CIRCLED PLUS",
     "1 MINUS;1 TIMES;1 DIVISION SLASH;1 DOT OPERATOR;1 RING OPERATOR;1 ASTERISK OPERATOR",
     "1 EQUALS;1 DASH;SQUARED PLUS;1 MINUS;1 TIMES;1 DOT OPERATOR;RIGHT TACK;LEFT TACK",
     "DOWN TACK;UP TACK;ASSERTION;MODELS;TRUE;FORCES;TRIPLE VERTICAL BAR RIGHT TURNSTILE",
     "DOUBLE VERTICAL BAR DOUBLE RIGHT TURNSTILE;DOES NOT PROVE;NOT TRUE;DOES NOT FORCE",
     "NEGATED DOUBLE VERTICAL BAR DOUBLE RIGHT TURNSTILE;PRECEDES UNDER RELATION",
     "SUCCEEDS UNDER RELATION;NORMAL SUBGROUP OF;CONTAINS AS NORMAL SUBGROUP",
     "NORMAL SUBGROUP OF OR EQUAL TO;CONTAINS AS NORMAL SUBGROUP OR EQUAL TO;ORIGINAL OF",
     "IMAGE OF;MULTIMAP;HERMITIAN CONJUGATE MATRIX;INTERCALATE;XOR;NAND;NOR",
     "RIGHT ANGLE WITH ARC;1 TRIANGLE;N-ARY LOGICAL AND;2 OR;1 INTERSECTION;1 UNION",
     "DIAMOND OPERATOR;DOT OPERATOR;STAR OPERATOR;DIVISION TIMES;BOWTIE",
     "LEFT NORMAL FACTOR SEMIDIRECT PRODUCT;RIGHT NORMAL FACTOR SEMIDIRECT PRODUCT",
     "LEFT SEMIDIRECT PRODUCT;RIGHT SEMIDIRECT PRODUCT;REVERSED TILDE EQUALS;CURLY LOGICAL OR",
     "2 AND;DOUBLE SUBSET;1 SUPERSET;1 INTERSECTION;1 UNION;PITCHFORK;EQUAL AND PARALLEL TO",
     "LESS-THAN WITH DOT;GREATER-THAN WITH DOT;VERY MUCH LESS-THAN;2 GREATER-THAN",
     "LESS-THAN EQUAL TO OR GREATER-THAN;GREATER-THAN EQUAL TO OR LESS-THAN",
     "EQUAL TO OR LESS-THAN;3 GREATER-THAN;3 PRECEDES;3 SUCCEEDS;DOES NOT PRECEDE OR EQUAL",
     "2 SUCCEED OR EQUAL;NOT SQUARE IMAGE OF OR EQUAL TO;2 ORIGINAL OF OR EQUAL TO",
     "SQUARE IMAGE OF OR NOT EQUAL TO;1 ORIGINAL OF OR NOT EQUAL TO",
     "LESS-THAN BUT NOT EQUIVALENT TO;GREATER-THAN BUT NOT EQUIVALENT TO",
     "PRECEDES BUT NOT EQUIVALENT TO;SUCCEEDS BUT NOT EQUIVALENT TO;NOT NORMAL SUBGROUP OF",
     "DOES NOT CONTAIN AS NORMAL SUBGROUP;NOT NORMAL SUBGROUP OF OR EQUAL TO",
     "DOES NOT CONTAIN AS NORMAL SUBGROUP OR EQUAL;VERTICAL ELLIPSIS",
     "MIDLINE HORIZONTAL ELLIPSIS;UP RIGHT DIAGONAL ELLIPSIS;DOWN RIGHT DIAGONAL ELLIPSIS",
     "ELEMENT OF WITH LONG HORIZONTAL STROKE;3 VERTICAL BAR AT END OF HORIZONTAL STROKE",
     "SMALL ELEMENT OF WITH VERTICAL BAR AT END OF HORIZONTAL STROKE;ELEMENT OF WITH DOT ABOVE",
     "3 OVERBAR;SMALL ELEMENT OF WITH OVERBAR;ELEMENT OF WITH UNDERBAR",
     "3 TWO HORIZONTAL STROKES;CONTAINS WITH LONG HORIZONTAL STROKE",
     "2 VERTICAL BAR AT END OF HORIZONTAL STROKE",
     "SMALL CONTAINS WITH VERTICAL BAR AT END OF HORIZONTAL STROKE;CONTAINS WITH OVERBAR",
     "SMALL CONTAINS WITH OVERBAR;Z NOTATION BAG MEMBERSHIP;DIAMETER SIGN;ELECTRIC ARROW;HOUSE",
     "UP ARROWHEAD;DOWN ARROWHEAD;PROJECTIVE;PERSPECTIVE;WAVY LINE;LEFT CEILING;RIGHT CEILING",
     "LEFT FLOOR;RIGHT FLOOR;BOTTOM RIGHT CROP;1 LEFT CROP;TOP RIGHT CROP;1 LEFT CROP",
     "REVERSED NOT SIGN;SQUARE LOZENGE;ARC;SEGMENT;SECTOR;TELEPHONE RECORDER",
     "POSITION INDICATOR;VIEWDATA SQUARE;PLACE OF INTEREST SIGN;TURNED NOT SIGN;WATCH",
     "HOURGLASS;TOP LEFT CORNER;1 RIGHT CORNER;BOTTOM LEFT CORNER;1 RIGHT CORNER",
     "TOP HALF INTEGRAL;BOTTOM HALF INTEGRAL;FROWN;SMILE",
     "UP ARROWHEAD BETWEEN TWO HORIZONTAL BARS;OPTION KEY;ERASE TO THE RIGHT",
     "X IN A RECTANGLE BOX;KEYBOARD;LEFT-POINTING ANGLE BRACKET;RIGHT-POINTING ANGLE BRACKET",
     "ERASE TO THE LEFT;BENZENE RING;CYLINDRICITY;ALL AROUND-PROFILE;SYMMETRY;TOTAL RUNOUT",
     "DIMENSION ORIGIN;CONICAL TAPER;SLOPE;COUNTERBORE;COUNTERSINK",
     "APL FUNCTIONAL SYMBOL I-BEAM;3 SQUISH QUAD;3 QUAD EQUAL;4 DIVIDE;4 DIAMOND;4 JOT",
     "4 CIRCLE;3 CIRCLE STILE;4 JOT;3 SLASH BAR;3 BACKSLASH BAR;3 QUAD SLASH;4 BACKSLASH",
     "4 LESS-THAN;4 GREATER-THAN;3 LEFTWARDS VANE;3 RIGHTWARDS VANE;3 QUAD LEFTWARDS ARROW",
     "4 RIGHTWARDS ARROW;3 CIRCLE BACKSLASH;3 DOWN TACK UNDERBAR;3 DELTA STILE",
     "3 QUAD DOWN CARET;4 DELTA;3 DOWN TACK JOT;3 UPWARDS VANE;3 QUAD UPWARDS ARROW",
     "3 UP TACK OVERBAR;3 DEL STILE;3 QUAD UP CARET;4 DEL;3 UP TACK JOT;3 DOWNWARDS VANE",
     "3 QUAD DOWNWARDS ARROW;3 QUOTE UNDERBAR;3 DELTA UNDERBAR;3 DIAMOND UNDERBAR",
     "3 JOT UNDERBAR;3 CIRCLE UNDERBAR;3 UP SHOE JOT;3 QUOTE QUAD;3 CIRCLE STAR;3 QUAD COLON",
     "3 UP TACK DIAERESIS;3 DEL DIAERESIS;3 STAR DIAERESIS;3 JOT DIAERESIS;3 CIRCLE DIAERESIS",
     "3 DOWN SHOE STILE;3 LEFT SHOE STILE;3 TILDE DIAERESIS;3 GREATER-THAN DIAERESIS",
     "3 COMMA BAR;3 DEL TILDE;3 ZILDE;3 STILE TILDE;3 SEMICOLON UNDERBAR;3 QUAD NOT EQUAL",
     "4 QUESTION;3 DOWN CARET TILDE;3 UP CARET TILDE;3 IOTA;3 RHO;3 OMEGA;3 ALPHA UNDERBAR",
     "3 EPSILON UNDERBAR;3 IOTA UNDERBAR;3 OMEGA UNDERBAR;3 ALPHA;NOT CHECK MARK",
     "RIGHT ANGLE WITH DOWNWARDS ZIGZAG ARROW;SHOULDERED OPEN BOX;BELL SYMBOL",
     "VERTICAL LINE WITH MIDDLE DOT;INSERTION SYMBOL;CONTINUOUS UNDERLINE SYMBOL",
     "DISCONTINUOUS UNDERLINE SYMBOL;EMPHASIS SYMBOL;COMPOSITION SYMBOL",
     "WHITE SQUARE WITH CENTRE VERTICAL LINE;ENTER SYMBOL;ALTERNATIVE KEY SYMBOL;HELM SYMBOL",
     "CIRCLED HORIZONTAL BAR WITH NOTCH;1 TRIANGLE DOWN;BROKEN CIRCLE WITH NORTHWEST ARROW",
     "UNDO SYMBOL;MONOSTABLE SYMBOL;HYSTERESIS SYMBOL;OPEN-CIRCUIT-OUTPUT H-TYPE SYMBOL",
     "1 L-TYPE SYMBOL;PASSIVE-PULL-DOWN-OUTPUT SYMBOL;PASSIVE-PULL-UP-OUTPUT SYMBOL",
     "DIRECT CURRENT SYMBOL FORM TWO;SOFTWARE-FUNCTION SYMBOL;APL FUNCTIONAL SYMBOL QUAD",
     "DECIMAL SEPARATOR KEY SYMBOL;PREVIOUS PAGE;NEXT PAGE;PRINT SCREEN SYMBOL",
     "CLEAR SCREEN SYMBOL;LEFT PARENTHESIS UPPER HOOK;2 EXTENSION;2 LOWER HOOK",
     "RIGHT PARENTHESIS UPPER HOOK;2 EXTENSION;2 LOWER HOOK;LEFT SQUARE BRACKET UPPER CORNER",
     "3 EXTENSION;3 LOWER CORNER;RIGHT SQUARE BRACKET UPPER CORNER;3 EXTENSION;3 LOWER CORNER",
     "LEFT CURLY BRACKET UPPER HOOK;3 MIDDLE PIECE;3 LOWER HOOK;CURLY BRACKET EXTENSION",
     "RIGHT CURLY BRACKET UPPER HOOK;3 MIDDLE PIECE;3 LOWER HOOK;INTEGRAL EXTENSION",
     "HORIZONTAL LINE EXTENSION;UPPER LEFT OR LOWER RIGHT CURLY BRACKET SECTION",
     "1 RIGHT OR LOWER LEFT CURLY BRACKET SECTION;SUMMATION TOP;1 BOTTOM;TOP SQUARE BRACKET",
     "BOTTOM SQUARE BRACKET;3 OVER TOP SQUARE BRACKET;RADICAL SYMBOL BOTTOM",
     "LEFT VERTICAL BOX LINE;RIGHT VERTICAL BOX LINE;HORIZONTAL SCAN LINE-1;2 LINE-3;2 LINE-7",
     "2 LINE-9;DENTISTRY SYMBOL LIGHT VERTICAL AND TOP RIGHT;5 BOTTOM RIGHT;4 WITH CIRCLE",
     "3 DOWN AND HORIZONTAL WITH CIRCLE;3 UP AND HORIZONTAL WITH CIRCLE",
     "3 VERTICAL WITH TRIANGLE;3 DOWN AND HORIZONTAL WITH TRIANGLE",
     "3 UP AND HORIZONTAL WITH TRIANGLE;3 VERTICAL AND WAVE;3 DOWN AND HORIZONTAL WITH WAVE",
     "3 UP AND HORIZONTAL WITH WAVE;3 DOWN AND HORIZONTAL;3 UP AND HORIZONTAL",
     "3 VERTICAL AND TOP LEFT;5 BOTTOM LEFT;SQUARE FOOT;RETURN SYMBOL;EJECT SYMBOL",
     "VERTICAL LINE EXTENSION;METRICAL BREVE;1 LONG OVER SHORT;1 SHORT OVER LONG",
     "1 LONG OVER TWO SHORTS;1 TWO SHORTS OVER LONG;3 JOINED;1 TRISEME;1 TETRASEME;1 PENTASEME",
     "EARTH GROUND;FUSE;TOP PARENTHESIS;BOTTOM PARENTHESIS;TOP CURLY BRACKET",
     "BOTTOM CURLY BRACKET;TOP TORTOISE SHELL BRACKET;BOTTOM TORTOISE SHELL BRACKET",
     "WHITE TRAPEZIUM;BENZENE RING WITH CIRCLE;STRAIGHTNESS;FLATNESS;AC CURRENT",
     "ELECTRICAL INTERSECTION;DECIMAL EXPONENT SYMBOL;BLACK RIGHT-POINTING DOUBLE TRIANGLE",
     "1 LEFT-POINTING DOUBLE TRIANGLE;1 UP-POINTING DOUBLE TRIANGLE",
     "1 DOWN-POINTING DOUBLE TRIANGLE;1 RIGHT-POINTING DOUBLE TRIANGLE WITH VERTICAL BAR",
     "1 LEFT-POINTING DOUBLE TRIANGLE WITH VERTICAL BAR",
     "1 RIGHT-POINTING TRIANGLE WITH DOUBLE VERTICAL BAR;ALARM CLOCK;STOPWATCH;TIMER CLOCK",
     "HOURGLASS WITH FLOWING SAND;BLACK MEDIUM LEFT-POINTING TRIANGLE",
     "2 RIGHT-POINTING TRIANGLE;2 UP-POINTING TRIANGLE;2 DOWN-POINTING TRIANGLE",
     "DOUBLE VERTICAL BAR;BLACK SQUARE FOR STOP;1 CIRCLE FOR RECORD;POWER SYMBOL",
     "1 ON-OFF SYMBOL;1 ON SYMBOL;1 SLEEP SYMBOL;OBSERVER EYE SYMBOL;SYMBOL FOR NULL",
     "2 START OF HEADING;4 TEXT;2 END OF TEXT;4 TRANSMISSION;2 ENQUIRY;2 ACKNOWLEDGE;2 BELL",
     "2 BACKSPACE;2 HORIZONTAL TABULATION;2 LINE FEED;2 VERTICAL TABULATION;2 FORM FEED",
     "2 CARRIAGE RETURN;2 SHIFT OUT;3 IN;2 DATA LINK ESCAPE;2 DEVICE CONTROL ONE;4 TWO;4 THREE",
     "4 FOUR;2 NEGATIVE ACKNOWLEDGE;2 SYNCHRONOUS IDLE;2 END OF TRANSMISSION BLOCK;2 CANCEL",
     "2 END OF MEDIUM;2 SUBSTITUTE;2 ESCAPE;2 FILE SEPARATOR;2 GROUP SEPARATOR",
     "2 RECORD SEPARATOR;2 UNIT SEPARATOR;2 SPACE;2 DELETE;BLANK SYMBOL;OPEN BOX",
     "SYMBOL FOR NEWLINE;2 DELETE FORM TWO;2 SUBSTITUTE FORM TWO"]),
   (9280,
    ["OCR HOOK;1 CHAIR;1 FORK;1 INVERTED FORK;1 BELT BUCKLE;1 BOW TIE",
     "1 BRANCH BANK IDENTIFICATION;1 AMOUNT OF CHECK;1 DASH;1 CUSTOMER ACCOUNT NUMBER",
     "1 DOUBLE BACKSLASH"]),
   (9312,
    ["CIRCLED DIGIT ONE;2 TWO;2 THREE;2 FOUR;2 FIVE;2 SIX;2 SEVEN;2 EIGHT;2 NINE;1 NUMBER TEN",
     "2 ELEVEN;2 TWELVE;2 THIRTEEN;2 FOURTEEN;2 FIFTEEN;2 SIXTEEN;2 SEVENTEEN;2 EIGHTEEN",
     "2 NINETEEN;2 TWENTY;PARENTHESIZED DIGIT ONE;2 TWO;2 THREE;2 FOUR;2 FIVE;2 SIX;2 SEVEN",
     "2 EIGHT;2 NINE;1 NUMBER TEN;2 ELEVEN;2 TWELVE;2 THIRTEEN;2 FOURTEEN;2 FIFTEEN;2 SIXTEEN",
     "2 SEVENTEEN;2 EIGHTEEN;2 NINETEEN;2 TWENTY;DIGIT ONE FULL STOP;1 TWO FULL STOP",
     "1 THREE FULL STOP;1 FOUR FULL STOP;1 FIVE FULL STOP;1 SIX FULL STOP;1 SEVEN FULL STOP",
     "1 EIGHT FULL STOP;1 NINE FULL STOP;NUMBER TEN FULL STOP;1 ELEVEN FULL STOP",
     "1 TWELVE FULL STOP;1 THIRTEEN FULL STOP;1 FOURTEEN FULL STOP;1 FIFTEEN FULL STOP",
     "1 SIXTEEN FULL STOP;1 SEVENTEEN FULL STOP;1 EIGHTEEN FULL STOP;1 NINETEEN FULL STOP",
     "1 TWENTY FULL STOP;PARENTHESIZED LATIN SMALL LETTER A;4 B;4 C;4 D;4 E;4 F;4 G;4 H;4 I",
     "4 J;4 K;4 L;4 M;4 N;4 O;4 P;4 Q;4 R;4 S;4 T;4 U;4 V;4 W;4 X;4 Y;4 Z",
     "CIRCLED LATIN CAPITAL LETTER A;4 B;4 C;4 D;4 E;4 F;4 G;4 H;4 I;4 J;4 K;4 L;4 M;4 N;4 O",
     "4 P;4 Q;4 R;4 S;4 T;4 U;4 V;4 W;4 X;4 Y;4 Z;2 SMALL LETTER A;4 B;4 C;4 D;4 E;4 F;4 G;4 H",
     "4 I;4 J;4 K;4 L;4 M;4 N;4 O;4 P;4 Q;4 R;4 S;4 T;4 U;4 V;4 W;4 X;4 Y;4 Z;1 DIGIT ZERO",
     "NEGATIVE CIRCLED NUMBER ELEVEN;3 TWELVE;3 THIRTEEN;3 FOURTEEN;3 FIFTEEN;3 SIXTEEN",
     "3 SEVENTEEN;3 EIGHTEEN;3 NINETEEN;3 TWENTY;DOUBLE CIRCLED DIGIT ONE;3 TWO;3 THREE;3 FOUR",
     "3 FIVE;3 SIX;3 SEVEN;3 EIGHT;3 NINE;2 NUMBER TEN;NEGATIVE CIRCLED DIGIT ZERO",
     "BOX DRAWINGS LIGHT HORIZONTAL;2 HEAVY HORIZONTAL;2 LIGHT VERTICAL;2 HEAVY VERTICAL",
     "2 LIGHT TRIPLE DASH HORIZONTAL;2 HEAVY TRIPLE DASH HORIZONTAL",
     "2 LIGHT TRIPLE DASH VERTICAL;2 HEAVY TRIPLE DASH VERTICAL",
     "2 LIGHT QUADRUPLE DASH HORIZONTAL;2 HEAVY QUADRUPLE DASH HORIZONTAL",
     "2 LIGHT QUADRUPLE DASH VERTICAL;2 HEAVY QUADRUPLE DASH VERTICAL;2 LIGHT DOWN AND RIGHT",
     "2 DOWN LIGHT AND RIGHT HEAVY;3 HEAVY AND RIGHT LIGHT;2 HEAVY DOWN AND RIGHT",
     "2 LIGHT DOWN AND LEFT;2 DOWN LIGHT AND LEFT HEAVY;3 HEAVY AND LEFT LIGHT",
     "2 HEAVY DOWN AND LEFT;2 LIGHT UP AND RIGHT;2 UP LIGHT AND RIGHT HEAVY",
     "3 HEAVY AND RIGHT LIGHT;2 HEAVY UP AND RIGHT;2 LIGHT UP AND LEFT",
     "2 UP LIGHT AND LEFT HEAVY;3 HEAVY AND LEFT LIGHT;2 HEAVY UP AND LEFT",
     "2 LIGHT VERTICAL AND RIGHT;2 VERTICAL LIGHT AND RIGHT HEAVY",
     "2 UP HEAVY AND RIGHT DOWN LIGHT;2 DOWN HEAVY AND RIGHT UP LIGHT",
     "2 VERTICAL HEAVY AND RIGHT LIGHT;2 DOWN LIGHT AND RIGHT UP HEAVY",
     "2 UP LIGHT AND RIGHT DOWN HEAVY;2 HEAVY VERTICAL AND RIGHT;2 LIGHT VERTICAL AND LEFT",
     "2 VERTICAL LIGHT AND LEFT HEAVY;2 UP HEAVY AND LEFT DOWN LIGHT",
     "2 DOWN HEAVY AND LEFT UP LIGHT;2 VERTICAL HEAVY AND LEFT LIGHT",
     "2 DOWN LIGHT AND LEFT UP HEAVY;2 UP LIGHT AND LEFT DOWN HEAVY;2 HEAVY VERTICAL AND LEFT",
     "2 LIGHT DOWN AND HORIZONTAL;2 LEFT HEAVY AND RIGHT DOWN LIGHT",
     "2 RIGHT HEAVY AND LEFT DOWN LIGHT;2 DOWN LIGHT AND HORIZONTAL HEAVY",
     "3 HEAVY AND HORIZONTAL LIGHT;2 RIGHT LIGHT AND LEFT DOWN HEAVY",
     "2 LEFT LIGHT AND RIGHT DOWN HEAVY;2 HEAVY DOWN AND HORIZONTAL;2 LIGHT UP AND HORIZONTAL",
     "2 LEFT HEAVY AND RIGHT UP LIGHT;2 RIGHT HEAVY AND LEFT UP LIGHT",
     "2 UP LIGHT AND HORIZONTAL HEAVY;3 HEAVY AND HORIZONTAL LIGHT",
     "2 RIGHT LIGHT AND LEFT UP HEAVY;2 LEFT LIGHT AND RIGHT UP HEAVY",
     "2 HEAVY UP AND HORIZONTAL;2 LIGHT VERTICAL AND HORIZONTAL",
     "2 LEFT HEAVY AND RIGHT VERTICAL LIGHT;2 RIGHT HEAVY AND LEFT VERTICAL LIGHT",
     "2 VERTICAL LIGHT AND HORIZONTAL HEAVY;2 UP HEAVY AND DOWN HORIZONTAL LIGHT",
     "2 DOWN HEAVY AND UP HORIZONTAL LIGHT;2 VERTICAL HEAVY AND HORIZONTAL LIGHT",
     "2 LEFT UP HEAVY AND RIGHT DOWN LIGHT;2 RIGHT UP HEAVY AND LEFT DOWN LIGHT",
     "2 LEFT DOWN HEAVY AND RIGHT UP LIGHT;2 RIGHT DOWN HEAVY AND LEFT UP LIGHT",
     "2 DOWN LIGHT AND UP HORIZONTAL HEAVY;2 UP LIGHT AND DOWN HORIZONTAL HEAVY",
     "2 RIGHT LIGHT AND LEFT VERTICAL HEAVY;2 LEFT LIGHT AND RIGHT VERTICAL HEAVY",
     "2 HEAVY VERTICAL AND HORIZONTAL;2 LIGHT DOUBLE DASH HORIZONTAL",
     "2 HEAVY DOUBLE DASH HORIZONTAL;2 LIGHT DOUBLE DASH VERTICAL;2 HEAVY DOUBLE DASH VERTICAL",
     "2 DOUBLE HORIZONTAL;3 VERTICAL;2 DOWN SINGLE AND RIGHT DOUBLE;3 DOUBLE AND RIGHT SINGLE",
     "2 DOUBLE DOWN AND RIGHT;2 DOWN SINGLE AND LEFT DOUBLE;3 DOUBLE AND LEFT SINGLE",
     "2 DOUBLE DOWN AND LEFT;2 UP SINGLE AND RIGHT DOUBLE;3 DOUBLE AND RIGHT SINGLE",
     "2 DOUBLE UP AND RIGHT;2 UP SINGLE AND LEFT DOUBLE;3 DOUBLE AND LEFT SINGLE",
     "2 DOUBLE UP AND LEFT;2 VERTICAL SINGLE AND RIGHT DOUBLE;3 DOUBLE AND RIGHT SINGLE",
     "2 DOUBLE VERTICAL AND RIGHT;2 VERTICAL SINGLE AND LEFT DOUBLE;3 DOUBLE AND LEFT SINGLE",
     "2 DOUBLE VERTICAL AND LEFT;2 DOWN SINGLE AND HORIZONTAL DOUBLE",
     "3 DOUBLE AND HORIZONTAL SINGLE;2 DOUBLE DOWN AND HORIZONTAL",
     "2 UP SINGLE AND HORIZONTAL DOUBLE;3 DOUBLE AND HORIZONTAL SINGLE",
     "2 DOUBLE UP AND HORIZONTAL;2 VERTICAL SINGLE AND HORIZONTAL DOUBLE",
     "3 DOUBLE AND HORIZONTAL SINGLE;2 DOUBLE VERTICAL AND HORIZONTAL",
     "2 LIGHT ARC DOWN AND RIGHT;6 LEFT;4 UP AND LEFT;6 RIGHT",
     "3 DIAGONAL UPPER RIGHT TO LOWER LEFT;5 LEFT TO LOWER RIGHT;4 CROSS;3 LEFT;3 UP;3 RIGHT",
     "3 DOWN;2 HEAVY LEFT;3 UP;3 RIGHT;3 DOWN;2 LIGHT LEFT AND HEAVY RIGHT;3 UP AND HEAVY DOWN",
     "2 HEAVY LEFT AND LIGHT RIGHT;3 UP AND LIGHT DOWN;UPPER HALF BLOCK;LOWER ONE EIGHTH BLOCK",
     "2 QUARTER BLOCK;1 THREE EIGHTHS BLOCK;1 HALF BLOCK;1 FIVE EIGHTHS BLOCK",
     "1 THREE QUARTERS BLOCK;1 SEVEN EIGHTHS BLOCK;FULL BLOCK;LEFT SEVEN EIGHTHS BLOCK",
     "1 THREE QUARTERS BLOCK;1 FIVE EIGHTHS BLOCK;1 HALF BLOCK;1 THREE EIGHTHS BLOCK",
     "1 ONE QUARTER BLOCK;2 EIGHTH BLOCK;RIGHT HALF BLOCK;LIGHT SHADE;MEDIUM SHADE;DARK SHADE",
     "UPPER ONE EIGHTH BLOCK;RIGHT ONE EIGHTH BLOCK;QUADRANT LOWER LEFT;2 RIGHT;1 UPPER LEFT",
     "3 AND LOWER LEFT AND LOWER RIGHT;5 RIGHT;4 UPPER RIGHT AND LOWER LEFT;8 RIGHT;2 RIGHT",
     "3 AND LOWER LEFT;6 AND LOWER RIGHT;BLACK SQUARE;WHITE SQUARE;2 WITH ROUNDED CORNERS",
     "2 CONTAINING BLACK SMALL SQUARE;SQUARE WITH HORIZONTAL FILL;2 VERTICAL FILL",
     "2 ORTHOGONAL CROSSHATCH FILL;2 UPPER LEFT TO LOWER RIGHT FILL;3 RIGHT TO LOWER LEFT FILL",
     "2 DIAGONAL CROSSHATCH FILL;BLACK SMALL SQUARE;WHITE SMALL SQUARE;BLACK RECTANGLE",
     "WHITE RECTANGLE;BLACK VERTICAL RECTANGLE;WHITE VERTICAL RECTANGLE;BLACK PARALLELOGRAM",
     "WHITE PARALLELOGRAM;BLACK UP-POINTING TRIANGLE;WHITE UP-POINTING TRIANGLE",
     "BLACK UP-POINTING SMALL TRIANGLE;WHITE UP-POINTING SMALL TRIANGLE",
     "BLACK RIGHT-POINTING TRIANGLE;WHITE RIGHT-POINTING TRIANGLE",
     "BLACK RIGHT-POINTING SMALL TRIANGLE;WHITE RIGHT-POINTING SMALL TRIANGLE",
     "BLACK RIGHT-POINTING POINTER;WHITE RIGHT-POINTING POINTER;BLACK DOWN-POINTING TRIANGLE",
     "WHITE DOWN-POINTING TRIANGLE;BLACK DOWN-POINTING SMALL TRIANGLE",
     "WHITE DOWN-POINTING SMALL TRIANGLE;BLACK LEFT-POINTING TRIANGLE",
     "WHITE LEFT-POINTING TRIANGLE;BLACK LEFT-POINTING SMALL TRIANGLE",
     "WHITE LEFT-POINTING SMALL TRIANGLE;BLACK LEFT-POINTING POINTER",
     "WHITE LEFT-POINTING POINTER;BLACK DIAMOND;WHITE DIAMOND;2 CONTAINING BLACK SMALL DIAMOND",
     "FISHEYE;LOZENGE;WHITE CIRCLE;DOTTED CIRCLE;CIRCLE WITH VERTICAL FILL;BULLSEYE",
     "BLACK CIRCLE;CIRCLE WITH LEFT HALF BLACK;2 RIGHT HALF BLACK;2 LOWER HALF BLACK",
     "2 UPPER HALF BLACK;3 RIGHT QUADRANT BLACK;2 ALL BUT UPPER LEFT QUADRANT BLACK",
     "LEFT HALF BLACK CIRCLE;RIGHT HALF BLACK CIRCLE;INVERSE BULLET;1 WHITE CIRCLE",
     "UPPER HALF INVERSE WHITE CIRCLE;LOWER HALF INVERSE WHITE CIRCLE",
     "UPPER LEFT QUADRANT CIRCULAR ARC;1 RIGHT QUADRANT CIRCULAR ARC",
     "LOWER RIGHT QUADRANT CIRCULAR ARC;1 LEFT QUADRANT CIRCULAR ARC;UPPER HALF CIRCLE",
     "LOWER HALF CIRCLE;BLACK LOWER RIGHT TRIANGLE;2 LEFT TRIANGLE;1 UPPER LEFT TRIANGLE",
     "2 RIGHT TRIANGLE;WHITE BULLET;SQUARE WITH LEFT HALF BLACK;2 RIGHT HALF BLACK",
     "2 UPPER LEFT DIAGONAL HALF BLACK;2 LOWER RIGHT DIAGONAL HALF BLACK",
     "WHITE SQUARE WITH VERTICAL BISECTING LINE;1 UP-POINTING TRIANGLE WITH DOT",
     "UP-POINTING TRIANGLE WITH LEFT HALF BLACK;3 RIGHT HALF BLACK;LARGE CIRCLE",
     "WHITE SQUARE WITH UPPER LEFT QUADRANT;3 LOWER LEFT QUADRANT;4 RIGHT QUADRANT",
     "3 UPPER RIGHT QUADRANT;1 CIRCLE WITH UPPER LEFT QUADRANT;3 LOWER LEFT QUADRANT",
     "4 RIGHT QUADRANT;3 UPPER RIGHT QUADRANT;UPPER LEFT TRIANGLE;1 RIGHT TRIANGLE",
     "LOWER LEFT TRIANGLE;WHITE MEDIUM SQUARE;BLACK MEDIUM SQUARE;WHITE MEDIUM SMALL SQUARE",
     "BLACK MEDIUM SMALL SQUARE;LOWER RIGHT TRIANGLE;BLACK SUN WITH RAYS;CLOUD;UMBRELLA",
     "SNOWMAN;COMET;BLACK STAR;WHITE STAR;LIGHTNING;THUNDERSTORM;SUN;ASCENDING NODE",
     "DESCENDING NODE;CONJUNCTION;OPPOSITION;BLACK TELEPHONE;WHITE TELEPHONE;BALLOT BOX",
     "2 WITH CHECK;3 X;SALTIRE;UMBRELLA WITH RAIN DROPS;HOT BEVERAGE;WHITE SHOGI PIECE",
     "BLACK SHOGI PIECE;SHAMROCK;REVERSED ROTATED FLORAL HEART BULLET",
     "BLACK LEFT POINTING INDEX;1 RIGHT POINTING INDEX;WHITE LEFT POINTING INDEX",
     "1 UP POINTING INDEX;1 RIGHT POINTING INDEX;1 DOWN POINTING INDEX;SKULL AND CROSSBONES",
     "CAUTION SIGN;RADIOACTIVE SIGN;BIOHAZARD SIGN;CADUCEUS;ANKH;ORTHODOX CROSS;CHI RHO",
     "CROSS OF LORRAINE;2 JERUSALEM;STAR AND CRESCENT;FARSI SYMBOL;ADI SHAKTI",
     "HAMMER AND SICKLE;PEACE SYMBOL;YIN YANG;TRIGRAM FOR HEAVEN;2 LAKE;2 FIRE;2 THUNDER",
     "2 WIND;2 WATER;2 MOUNTAIN;2 EARTH;WHEEL OF DHARMA;WHITE FROWNING FACE;1 SMILING FACE",
     "BLACK SMILING FACE;WHITE SUN WITH RAYS;FIRST QUARTER MOON;LAST QUARTER MOON;MERCURY",
     "FEMALE SIGN;EARTH;MALE SIGN;JUPITER;SATURN;URANUS;NEPTUNE;PLUTO;ARIES;TAURUS;GEMINI",
     "CANCER;LEO;VIRGO;LIBRA;SCORPIUS;SAGITTARIUS;CAPRICORN;AQUARIUS;PISCES;WHITE CHESS KING",
     "2 QUEEN;2 ROOK;2 BISHOP;2 KNIGHT;2 PAWN;BLACK CHESS KING;2 QUEEN;2 ROOK;2 BISHOP",
     "2 KNIGHT;2 PAWN;1 SPADE SUIT;WHITE HEART SUIT;1 DIAMOND SUIT;BLACK CLUB SUIT",
     "WHITE SPADE SUIT;BLACK HEART SUIT;1 DIAMOND SUIT;WHITE CLUB SUIT;HOT SPRINGS",
     "QUARTER NOTE;EIGHTH NOTE;BEAMED EIGHTH NOTES;1 SIXTEENTH NOTES;MUSIC FLAT SIGN",
     "1 NATURAL SIGN;1 SHARP SIGN;WEST SYRIAC CROSS;EAST SYRIAC CROSS",
     "UNIVERSAL RECYCLING SYMBOL;RECYCLING SYMBOL FOR TYPE-1 PLASTICS;3 TYPE-2 PLASTICS",
     "3 TYPE-3 PLASTICS;3 TYPE-4 PLASTICS;3 TYPE-5 PLASTICS;3 TYPE-6 PLASTICS",
     "3 TYPE-7 PLASTICS;3 GENERIC MATERIALS;BLACK UNIVERSAL RECYCLING SYMBOL",
     "RECYCLED PAPER SYMBOL;PARTIALLY-RECYCLED PAPER SYMBOL;PERMANENT PAPER SIGN",
     "WHEELCHAIR SYMBOL;DIE FACE-1;1 FACE-2;1 FACE-3;1 FACE-4;1 FACE-5;1 FACE-6",
     "WHITE CIRCLE WITH DOT RIGHT;3 TWO DOTS;BLACK CIRCLE WITH WHITE DOT RIGHT",
     "3 TWO WHITE DOTS;MONOGRAM FOR YANG;2 YIN;DIGRAM FOR GREATER YANG;2 LESSER YIN;3 YANG",
     "2 GREATER YIN;WHITE FLAG;BLACK FLAG;HAMMER AND PICK;ANCHOR;CROSSED SWORDS",
     "STAFF OF AESCULAPIUS;SCALES;ALEMBIC;FLOWER;GEAR;STAFF OF HERMES;ATOM SYMBOL;FLEUR-DE-LIS",
     "OUTLINED WHITE STAR;THREE LINES CONVERGING RIGHT;3 LEFT;WARNING SIGN;HIGH VOLTAGE SIGN",
     "DOUBLED FEMALE SIGN;1 MALE SIGN;INTERLOCKED FEMALE AND MALE SIGN;MALE AND FEMALE SIGN",
     "1 WITH STROKE SIGN;3 AND MALE AND FEMALE SIGN;VERTICAL MALE WITH STROKE SIGN",
     "HORIZONTAL MALE WITH STROKE SIGN;MEDIUM WHITE CIRCLE;1 BLACK CIRCLE;1 SMALL WHITE CIRCLE",
     "MARRIAGE SYMBOL;DIVORCE SYMBOL;UNMARRIED PARTNERSHIP SYMBOL;COFFIN;FUNERAL URN;NEUTER",
     "CERES;PALLAS;JUNO;VESTA;CHIRON;BLACK MOON LILITH;SEXTILE;SEMISEXTILE;QUINCUNX",
     "SESQUIQUADRATE;SOCCER BALL;BASEBALL;SQUARED KEY;WHITE DRAUGHTS MAN;2 KING",
     "BLACK DRAUGHTS MAN;2 KING;SNOWMAN WITHOUT SNOW;SUN BEHIND CLOUD;RAIN;BLACK SNOWMAN",
     "THUNDER CLOUD AND RAIN;TURNED WHITE SHOGI PIECE;1 BLACK SHOGI PIECE",
     "WHITE DIAMOND IN SQUARE;CROSSING LANES;DISABLED CAR;OPHIUCHUS;PICK;CAR SLIDING",
     "HELMET WITH WHITE CROSS;CIRCLED CROSSING LANES;CHAINS;NO ENTRY",
     "ALTERNATE ONE-WAY LEFT WAY TRAFFIC;BLACK TWO-WAY LEFT WAY TRAFFIC",
     "WHITE TWO-WAY LEFT WAY TRAFFIC;BLACK LEFT LANE MERGE;WHITE LEFT LANE MERGE",
     "DRIVE SLOW SIGN;HEAVY WHITE DOWN-POINTING TRIANGLE;LEFT CLOSED ENTRY;SQUARED SALTIRE",
     "FALLING DIAGONAL IN WHITE CIRCLE IN BLACK SQUARE;BLACK TRUCK;RESTRICTED LEFT ENTRY-1",
     "2 ENTRY-2;ASTRONOMICAL SYMBOL FOR URANUS;HEAVY CIRCLE WITH STROKE AND TWO DOTS ABOVE",
     "PENTAGRAM;RIGHT-HANDED INTERLACED PENTAGRAM;LEFT-HANDED INTERLACED PENTAGRAM",
     "INVERTED PENTAGRAM;BLACK CROSS ON SHIELD;SHINTO SHRINE;CHURCH;CASTLE;HISTORIC SITE",
     "GEAR WITHOUT HUB;1 WITH HANDLES;MAP SYMBOL FOR LIGHTHOUSE;MOUNTAIN;UMBRELLA ON GROUND",
     "FOUNTAIN;FLAG IN HOLE;FERRY;SAILBOAT;SQUARE FOUR CORNERS;SKIER;ICE SKATE",
     "PERSON WITH BALL;TENT;JAPANESE BANK SYMBOL;HEADSTONE GRAVEYARD SYMBOL;FUEL PUMP",
     "CUP ON BLACK SQUARE;WHITE FLAG WITH HORIZONTAL MIDDLE BLACK STRIPE;BLACK SAFETY SCISSORS",
     "UPPER BLADE SCISSORS;BLACK SCISSORS;LOWER BLADE SCISSORS;WHITE SCISSORS",
     "1 HEAVY CHECK MARK;TELEPHONE LOCATION SIGN;TAPE DRIVE;AIRPLANE;ENVELOPE;RAISED FIST",
     "1 HAND;VICTORY HAND;WRITING HAND;LOWER RIGHT PENCIL;PENCIL;UPPER RIGHT PENCIL;WHITE NIB",
     "BLACK NIB;CHECK MARK;HEAVY CHECK MARK;MULTIPLICATION X;HEAVY MULTIPLICATION X;BALLOT X",
     "HEAVY BALLOT X;OUTLINED GREEK CROSS;HEAVY GREEK CROSS;OPEN CENTRE CROSS",
     "HEAVY OPEN CENTRE CROSS;LATIN CROSS;SHADOWED WHITE LATIN CROSS;OUTLINED LATIN CROSS",
     "MALTESE CROSS;STAR OF DAVID;FOUR TEARDROP-SPOKED ASTERISK;1 BALLOON-SPOKED ASTERISK",
     "HEAVY FOUR BALLOON-SPOKED ASTERISK;FOUR CLUB-SPOKED ASTERISK;BLACK FOUR POINTED STAR",
     "WHITE FOUR POINTED STAR;SPARKLES;STRESS OUTLINED WHITE STAR;CIRCLED WHITE STAR",
     "OPEN CENTRE BLACK STAR;BLACK CENTRE WHITE STAR;OUTLINED BLACK STAR",
     "HEAVY OUTLINED BLACK STAR;PINWHEEL STAR;SHADOWED WHITE STAR;HEAVY ASTERISK",
     "OPEN CENTRE ASTERISK;EIGHT SPOKED ASTERISK;1 POINTED BLACK STAR;2 PINWHEEL STAR",
     "SIX POINTED BLACK STAR;EIGHT POINTED RECTILINEAR BLACK STAR",
     "HEAVY EIGHT POINTED RECTILINEAR BLACK STAR;TWELVE POINTED BLACK STAR",
     "SIXTEEN POINTED ASTERISK;TEARDROP-SPOKED ASTERISK;OPEN CENTRE TEARDROP-SPOKED ASTERISK",
     "HEAVY TEARDROP-SPOKED ASTERISK;SIX PETALLED BLACK AND WHITE FLORETTE;BLACK FLORETTE",
     "WHITE FLORETTE;EIGHT PETALLED OUTLINED BLACK FLORETTE",
     "CIRCLED OPEN CENTRE EIGHT POINTED STAR;HEAVY TEARDROP-SPOKED PINWHEEL ASTERISK;SNOWFLAKE",
     "TIGHT TRIFOLIATE SNOWFLAKE;HEAVY CHEVRON SNOWFLAKE;SPARKLE;HEAVY SPARKLE",
     "BALLOON-SPOKED ASTERISK;EIGHT TEARDROP-SPOKED PROPELLER ASTERISK",
     "HEAVY EIGHT TEARDROP-SPOKED PROPELLER ASTERISK;CROSS MARK;SHADOWED WHITE CIRCLE",
     "NEGATIVE SQUARED CROSS MARK;LOWER RIGHT DROP-SHADOWED WHITE SQUARE",
     "UPPER RIGHT DROP-SHADOWED WHITE SQUARE;LOWER RIGHT SHADOWED WHITE SQUARE",
     "UPPER RIGHT SHADOWED WHITE SQUARE;BLACK QUESTION MARK ORNAMENT",
     "WHITE QUESTION MARK ORNAMENT;1 EXCLAMATION MARK ORNAMENT;BLACK DIAMOND MINUS WHITE X",
     "HEAVY EXCLAMATION MARK SYMBOL;LIGHT VERTICAL BAR;MEDIUM VERTICAL BAR;HEAVY VERTICAL BAR",
     "1 SINGLE TURNED COMMA QUOTATION MARK ORNAMENT;2 COMMA QUOTATION MARK ORNAMENT",
     "1 DOUBLE TURNED COMMA QUOTATION MARK ORNAMENT;2 COMMA QUOTATION MARK ORNAMENT",
     "1 LOW SINGLE COMMA QUOTATION MARK ORNAMENT;2 DOUBLE COMMA QUOTATION MARK ORNAMENT",
     "CURVED STEM PARAGRAPH SIGN ORNAMENT;HEAVY EXCLAMATION MARK ORNAMENT",
     "1 HEART EXCLAMATION MARK ORNAMENT;1 BLACK HEART;ROTATED HEAVY BLACK HEART BULLET",
     "FLORAL HEART;ROTATED FLORAL HEART BULLET;MEDIUM LEFT PARENTHESIS ORNAMENT",
     "1 RIGHT PARENTHESIS ORNAMENT;1 FLATTENED LEFT PARENTHESIS ORNAMENT",
     "2 RIGHT PARENTHESIS ORNAMENT;1 LEFT-POINTING ANGLE BRACKET ORNAMENT",
     "1 RIGHT-POINTING ANGLE BRACKET ORNAMENT",
     "HEAVY LEFT-POINTING ANGLE QUOTATION MARK ORNAMENT",
     "1 RIGHT-POINTING ANGLE QUOTATION MARK ORNAMENT;1 LEFT-POINTING ANGLE BRACKET ORNAMENT",
     "1 RIGHT-POINTING ANGLE BRACKET ORNAMENT;LIGHT LEFT TORTOISE SHELL BRACKET ORNAMENT",
     "1 RIGHT TORTOISE SHELL BRACKET ORNAMENT;MEDIUM LEFT CURLY BRACKET ORNAMENT",
     "1 RIGHT CURLY BRACKET ORNAMENT;DINGBAT NEGATIVE CIRCLED DIGIT ONE;4 TWO;4 THREE;4 FOUR",
     "4 FIVE;4 SIX;4 SEVEN;4 EIGHT;4 NINE;3 NUMBER TEN;1 CIRCLED SANS-SERIF DIGIT ONE;4 TWO",
     "4 THREE;4 FOUR;4 FIVE;4 SIX;4 SEVEN;4 EIGHT;4 NINE;3 NUMBER TEN",
     "1 NEGATIVE CIRCLED SANS-SERIF DIGIT ONE;5 TWO;5 THREE;5 FOUR;5 FIVE;5 SIX;5 SEVEN",
     "5 EIGHT;5 NINE;4 NUMBER TEN;HEAVY WIDE-HEADED RIGHTWARDS ARROW;1 PLUS SIGN;1 MINUS SIGN",
     "1 DIVISION SIGN;1 SOUTH EAST ARROW;1 RIGHTWARDS ARROW;1 NORTH EAST ARROW",
     "DRAFTING POINT RIGHTWARDS ARROW;HEAVY ROUND-TIPPED RIGHTWARDS ARROW",
     "TRIANGLE-HEADED RIGHTWARDS ARROW;HEAVY TRIANGLE-HEADED RIGHTWARDS ARROW",
     "DASHED TRIANGLE-HEADED RIGHTWARDS ARROW;HEAVY DASHED TRIANGLE-HEADED RIGHTWARDS ARROW",
     "BLACK RIGHTWARDS ARROW;THREE-D TOP-LIGHTED RIGHTWARDS ARROWHEAD",
     "1 BOTTOM-LIGHTED RIGHTWARDS ARROWHEAD;BLACK RIGHTWARDS ARROWHEAD",
     "HEAVY BLACK CURVED DOWNWARDS AND RIGHTWARDS ARROW;3 UPWARDS AND RIGHTWARDS ARROW",
     "SQUAT BLACK RIGHTWARDS ARROW;HEAVY CONCAVE-POINTED BLACK RIGHTWARDS ARROW",
     "RIGHT-SHADED WHITE RIGHTWARDS ARROW;LEFT-SHADED WHITE RIGHTWARDS ARROW",
     "BACK-TILTED SHADOWED WHITE RIGHTWARDS ARROW;FRONT-TILTED SHADOWED WHITE RIGHTWARDS ARROW",
     "HEAVY LOWER RIGHT-SHADOWED WHITE RIGHTWARDS ARROW",
     "1 UPPER RIGHT-SHADOWED WHITE RIGHTWARDS ARROW",
     "NOTCHED LOWER RIGHT-SHADOWED WHITE RIGHTWARDS ARROW;CURLY LOOP",
     "NOTCHED UPPER RIGHT-SHADOWED WHITE RIGHTWARDS ARROW;CIRCLED HEAVY WHITE RIGHTWARDS ARROW",
     "WHITE-FEATHERED RIGHTWARDS ARROW;BLACK-FEATHERED SOUTH EAST ARROW;1 RIGHTWARDS ARROW",
     "1 NORTH EAST ARROW;HEAVY BLACK-FEATHERED SOUTH EAST ARROW;2 RIGHTWARDS ARROW",
     "2 NORTH EAST ARROW;TEARDROP-BARBED RIGHTWARDS ARROW",
     "HEAVY TEARDROP-SHANKED RIGHTWARDS ARROW;WEDGE-TAILED RIGHTWARDS ARROW",
     "HEAVY WEDGE-TAILED RIGHTWARDS ARROW;OPEN-OUTLINED RIGHTWARDS ARROW;DOUBLE CURLY LOOP",
     "THREE DIMENSIONAL ANGLE;WHITE TRIANGLE CONTAINING SMALL WHITE TRIANGLE;PERPENDICULAR",
     "OPEN SUBSET;1 SUPERSET;LEFT S-SHAPED BAG DELIMITER;RIGHT S-SHAPED BAG DELIMITER",
     "OR WITH DOT INSIDE;REVERSE SOLIDUS PRECEDING SUBSET;SUPERSET PRECEDING SOLIDUS",
     "VERTICAL BAR WITH HORIZONTAL STROKE;MATHEMATICAL RISING DIAGONAL;LONG DIVISION",
     "MATHEMATICAL FALLING DIAGONAL;SQUARED LOGICAL AND;2 OR;WHITE DIAMOND WITH CENTRED DOT",
     "AND WITH DOT;ELEMENT OF OPENING UPWARDS;LOWER RIGHT CORNER WITH DOT",
     "UPPER LEFT CORNER WITH DOT;LEFT OUTER JOIN;RIGHT OUTER JOIN;FULL OUTER JOIN",
     "LARGE UP TACK;1 DOWN TACK;LEFT AND RIGHT DOUBLE TURNSTILE;3 TACK;1 MULTIMAP",
     "LONG RIGHT TACK;1 LEFT TACK;UP TACK WITH CIRCLE ABOVE;LOZENGE DIVIDED BY HORIZONTAL RULE",
     "WHITE CONCAVE-SIDED DIAMOND;3 WITH LEFTWARDS TICK;4 RIGHTWARDS TICK",
     "1 SQUARE WITH LEFTWARDS TICK;3 RIGHTWARDS TICK;MATHEMATICAL LEFT WHITE SQUARE BRACKET",
     "1 RIGHT WHITE SQUARE BRACKET;1 LEFT ANGLE BRACKET;1 RIGHT ANGLE BRACKET",
     "1 LEFT DOUBLE ANGLE BRACKET;1 RIGHT DOUBLE ANGLE BRACKET",
     "1 LEFT WHITE TORTOISE SHELL BRACKET;1 RIGHT WHITE TORTOISE SHELL BRACKET",
     "1 LEFT FLATTENED PARENTHESIS;1 RIGHT FLATTENED PARENTHESIS;UPWARDS QUADRUPLE ARROW",
     "DOWNWARDS QUADRUPLE ARROW;ANTICLOCKWISE GAPPED CIRCLE ARROW",
     "CLOCKWISE GAPPED CIRCLE ARROW;RIGHT ARROW WITH CIRCLED PLUS;LONG LEFTWARDS ARROW",
     "1 RIGHTWARDS ARROW;1 LEFT RIGHT ARROW;1 LEFTWARDS DOUBLE ARROW;1 RIGHTWARDS DOUBLE ARROW",
     "1 LEFT RIGHT DOUBLE ARROW;1 LEFTWARDS ARROW FROM BAR;1 RIGHTWARDS ARROW FROM BAR",
     "1 LEFTWARDS DOUBLE ARROW FROM BAR;1 RIGHTWARDS DOUBLE ARROW FROM BAR;2 SQUIGGLE ARROW",
     "BRAILLE PATTERN BLANK;2 DOTS-1;2 DOTS-2;2 DOTS-12;2 DOTS-3;2 DOTS-13;2 DOTS-23",
     "2 DOTS-123;2 DOTS-4;2 DOTS-14;2 DOTS-24;2 DOTS-124;2 DOTS-34;2 DOTS-134;2 DOTS-234",
     "2 DOTS-1234;2 DOTS-5;2 DOTS-15;2 DOTS-25;2 DOTS-125;2 DOTS-35;2 DOTS-135;2 DOTS-235",
     "2 DOTS-1235;2 DOTS-45;2 DOTS-145;2 DOTS-245;2 DOTS-1245;2 DOTS-345;2 DOTS-1345",
     "2 DOTS-2345;2 DOTS-12345;2 DOTS-6;2 DOTS-16;2 DOTS-26;2 DOTS-126;2 DOTS-36;2 DOTS-136",
     "2 DOTS-236;2 DOTS-1236;2 DOTS-46;2 DOTS-146;2 DOTS-246;2 DOTS-1246;2 DOTS-346",
     "2 DOTS-1346;2 DOTS-2346;2 DOTS-12346;2 DOTS-56;2 DOTS-156;2 DOTS-256;2 DOTS-1256",
     "2 DOTS-356;2 DOTS-1356;2 DOTS-2356;2 DOTS-12356;2 DOTS-456;2 DOTS-1456;2 DOTS-2456",
     "2 DOTS-12456;2 DOTS-3456;2 DOTS-13456;2 DOTS-23456;2 DOTS-123456;2 DOTS-7;2 DOTS-17",
     "2 DOTS-27;2 DOTS-127;2 DOTS-37;2 DOTS-137;2 DOTS-237;2 DOTS-1237;2 DOTS-47;2 DOTS-147",
     "2 DOTS-247;2 DOTS-1247;2 DOTS-347;2 DOTS-1347;2 DOTS-2347;2 DOTS-12347;2 DOTS-57",
     "2 DOTS-157;2 DOTS-257;2 DOTS-1257;2 DOTS-357;2 DOTS-1357;2 DOTS-2357;2 DOTS-12357",
     "2 DOTS-457;2 DOTS-1457;2 DOTS-2457;2 DOTS-12457;2 DOTS-3457;2 DOTS-13457;2 DOTS-23457",
     "2 DOTS-123457;2 DOTS-67;2 DOTS-167;2 DOTS-267;2 DOTS-1267;2 DOTS-367;2 DOTS-1367",
     "2 DOTS-2367;2 DOTS-12367;2 DOTS-467;2 DOTS-1467;2 DOTS-2467;2 DOTS-12467;2 DOTS-3467",
     "2 DOTS-13467;2 DOTS-23467;2 DOTS-123467;2 DOTS-567;2 DOTS-1567;2 DOTS-2567;2 DOTS-12567",
     "2 DOTS-3567;2 DOTS-13567;2 DOTS-23567;2 DOTS-123567;2 DOTS-4567;2 DOTS-14567",
     "2 DOTS-24567;2 DOTS-124567;2 DOTS-34567;2 DOTS-134567;2 DOTS-234567;2 DOTS-1234567",
     "2 DOTS-8;2 DOTS-18;2 DOTS-28;2 DOTS-128;2 DOTS-38;2 DOTS-138;2 DOTS-238;2 DOTS-1238",
     "2 DOTS-48;2 DOTS-148;2 DOTS-248;2 DOTS-1248;2 DOTS-348;2 DOTS-1348;2 DOTS-2348",
     "2 DOTS-12348;2 DOTS-58;2 DOTS-158;2 DOTS-258;2 DOTS-1258;2 DOTS-358;2 DOTS-1358",
     "2 DOTS-2358;2 DOTS-12358;2 DOTS-458;2 DOTS-1458;2 DOTS-2458;2 DOTS-12458;2 DOTS-3458",
     "2 DOTS-13458;2 DOTS-23458;2 DOTS-123458;2 DOTS-68;2 DOTS-168;2 DOTS-268;2 DOTS-1268",
     "2 DOTS-368;2 DOTS-1368;2 DOTS-2368;2 DOTS-12368;2 DOTS-468;2 DOTS-1468;2 DOTS-2468",
     "2 DOTS-12468;2 DOTS-3468;2 DOTS-13468;2 DOTS-23468;2 DOTS-123468;2 DOTS-568;2 DOTS-1568",
     "2 DOTS-2568;2 DOTS-12568;2 DOTS-3568;2 DOTS-13568;2 DOTS-23568;2 DOTS-123568;2 DOTS-4568",
     "2 DOTS-14568;2 DOTS-24568;2 DOTS-124568;2 DOTS-34568;2 DOTS-134568;2 DOTS-234568",
     "2 DOTS-1234568;2 DOTS-78;2 DOTS-178;2 DOTS-278;2 DOTS-1278;2 DOTS-378;2 DOTS-1378",
     "2 DOTS-2378;2 DOTS-12378;2 DOTS-478;2 DOTS-1478;2 DOTS-2478;2 DOTS-12478;2 DOTS-3478",
     "2 DOTS-13478;2 DOTS-23478;2 DOTS-123478;2 DOTS-578;2 DOTS-1578;2 DOTS-2578;2 DOTS-12578",
     "2 DOTS-3578;2 DOTS-13578;2 DOTS-23578;2 DOTS-123578;2 DOTS-4578;2 DOTS-14578",
     "2 DOTS-24578;2 DOTS-124578;2 DOTS-34578;2 DOTS-134578;2 DOTS-234578;2 DOTS-1234578",
     "2 DOTS-678;2 DOTS-1678;2 DOTS-2678;2 DOTS-12678;2 DOTS-3678;2 DOTS-13678;2 DOTS-23678",
     "2 DOTS-123678;2 DOTS-4678;2 DOTS-14678;2 DOTS-24678;2 DOTS-124678;2 DOTS-34678",
     "2 DOTS-134678;2 DOTS-234678;2 DOTS-1234678;2 DOTS-5678;2 DOTS-15678;2 DOTS-25678",
     "2 DOTS-125678;2 DOTS-35678;2 DOTS-135678;2 DOTS-235678;2 DOTS-1235678;2 DOTS-45678",
     "2 DOTS-145678;2 DOTS-245678;2 DOTS-1245678;2 DOTS-345678;2 DOTS-1345678;2 DOTS-2345678",
     "2 DOTS-12345678;RIGHTWARDS TWO-HEADED ARROW WITH VERTICAL STROKE",
     "4 DOUBLE VERTICAL STROKE;LEFTWARDS DOUBLE ARROW WITH VERTICAL STROKE",
     "RIGHTWARDS DOUBLE ARROW WITH VERTICAL STROKE",
     "LEFT RIGHT DOUBLE ARROW WITH VERTICAL STROKE;RIGHTWARDS TWO-HEADED ARROW FROM BAR",
     "LEFTWARDS DOUBLE ARROW FROM BAR;RIGHTWARDS DOUBLE ARROW FROM BAR",
     "DOWNWARDS ARROW WITH HORIZONTAL STROKE;UPWARDS ARROW WITH HORIZONTAL STROKE",
     "1 TRIPLE ARROW;DOWNWARDS TRIPLE ARROW;LEFTWARDS DOUBLE DASH ARROW",
     "RIGHTWARDS DOUBLE DASH ARROW;LEFTWARDS TRIPLE DASH ARROW;RIGHTWARDS TRIPLE DASH ARROW",
     "1 TWO-HEADED TRIPLE DASH ARROW;1 ARROW WITH DOTTED STEM;UPWARDS ARROW TO BAR",
     "DOWNWARDS ARROW TO BAR;RIGHTWARDS ARROW WITH TAIL WITH VERTICAL STROKE",
     "5 DOUBLE VERTICAL STROKE;1 TWO-HEADED ARROW WITH TAIL;5 WITH VERTICAL STROKE",
     "6 DOUBLE VERTICAL STROKE;LEFTWARDS ARROW-TAIL;RIGHTWARDS ARROW-TAIL",
     "LEFTWARDS DOUBLE ARROW-TAIL;RIGHTWARDS DOUBLE ARROW-TAIL",
     "LEFTWARDS ARROW TO BLACK DIAMOND;RIGHTWARDS ARROW TO BLACK DIAMOND",
     "LEFTWARDS ARROW FROM BAR TO BLACK DIAMOND;RIGHTWARDS ARROW FROM BAR TO BLACK DIAMOND",
     "NORTH WEST AND SOUTH EAST ARROW;1 EAST AND SOUTH WEST ARROW;1 WEST ARROW WITH HOOK",
     "1 EAST ARROW WITH HOOK;SOUTH EAST ARROW WITH HOOK;1 WEST ARROW WITH HOOK",
     "NORTH WEST ARROW AND NORTH EAST ARROW;1 EAST ARROW AND SOUTH EAST ARROW",
     "SOUTH EAST ARROW AND SOUTH WEST ARROW;1 WEST ARROW AND NORTH WEST ARROW",
     "RISING DIAGONAL CROSSING FALLING DIAGONAL;FALLING DIAGONAL CROSSING RISING DIAGONAL",
     "SOUTH EAST ARROW CROSSING NORTH EAST ARROW;NORTH EAST ARROW CROSSING SOUTH EAST ARROW",
     "FALLING DIAGONAL CROSSING NORTH EAST ARROW;RISING DIAGONAL CROSSING SOUTH EAST ARROW",
     "NORTH EAST ARROW CROSSING NORTH WEST ARROW;1 WEST ARROW CROSSING NORTH EAST ARROW",
     "WAVE ARROW POINTING DIRECTLY RIGHT;ARROW POINTING RIGHTWARDS THEN CURVING UPWARDS",
     "5 DOWNWARDS;2 DOWNWARDS THEN CURVING LEFTWARDS;5 RIGHTWARDS",
     "RIGHT-SIDE ARC CLOCKWISE ARROW;LEFT-SIDE ARC ANTICLOCKWISE ARROW",
     "TOP ARC ANTICLOCKWISE ARROW;BOTTOM ARC ANTICLOCKWISE ARROW",
     "TOP ARC CLOCKWISE ARROW WITH MINUS;2 ANTICLOCKWISE ARROW WITH PLUS",
     "LOWER RIGHT SEMICIRCULAR CLOCKWISE ARROW;1 LEFT SEMICIRCULAR ANTICLOCKWISE ARROW",
     "ANTICLOCKWISE CLOSED CIRCLE ARROW;CLOCKWISE CLOSED CIRCLE ARROW",
     "RIGHTWARDS ARROW ABOVE SHORT LEFTWARDS ARROW",
     "LEFTWARDS ARROW ABOVE SHORT RIGHTWARDS ARROW",
     "SHORT RIGHTWARDS ARROW ABOVE LEFTWARDS ARROW;RIGHTWARDS ARROW WITH PLUS BELOW",
     "LEFTWARDS ARROW WITH PLUS BELOW;RIGHTWARDS ARROW THROUGH X",
     "LEFT RIGHT ARROW THROUGH SMALL CIRCLE;UPWARDS TWO-HEADED ARROW FROM SMALL CIRCLE",
     "LEFT BARB UP RIGHT BARB DOWN HARPOON;2 DOWN RIGHT BARB UP HARPOON",
     "UP BARB RIGHT DOWN BARB LEFT HARPOON;2 LEFT DOWN BARB RIGHT HARPOON",
     "LEFT BARB UP RIGHT BARB UP HARPOON;UP BARB RIGHT DOWN BARB RIGHT HARPOON",
     "LEFT BARB DOWN RIGHT BARB DOWN HARPOON;UP BARB LEFT DOWN BARB LEFT HARPOON",
     "LEFTWARDS HARPOON WITH BARB UP TO BAR;RIGHTWARDS HARPOON WITH BARB UP TO BAR",
     "UPWARDS HARPOON WITH BARB RIGHT TO BAR;DOWNWARDS HARPOON WITH BARB RIGHT TO BAR",
     "LEFTWARDS HARPOON WITH BARB DOWN TO BAR;RIGHTWARDS HARPOON WITH BARB DOWN TO BAR",
     "UPWARDS HARPOON WITH BARB LEFT TO BAR;DOWNWARDS HARPOON WITH BARB LEFT TO BAR",
     "LEFTWARDS HARPOON WITH BARB UP FROM BAR;RIGHTWARDS HARPOON WITH BARB UP FROM BAR",
     "UPWARDS HARPOON WITH BARB RIGHT FROM BAR;DOWNWARDS HARPOON WITH BARB RIGHT FROM BAR",
     "LEFTWARDS HARPOON WITH BARB DOWN FROM BAR;RIGHTWARDS HARPOON WITH BARB DOWN FROM BAR",
     "UPWARDS HARPOON WITH BARB LEFT FROM BAR;DOWNWARDS HARPOON WITH BARB LEFT FROM BAR",
     "LEFTWARDS HARPOON WITH BARB UP ABOVE LEFTWARDS HARPOON WITH BARB DOWN",
     "UPWARDS HARPOON WITH BARB LEFT BESIDE UPWARDS HARPOON WITH BARB RIGHT",
     "RIGHTWARDS HARPOON WITH BARB UP ABOVE RIGHTWARDS HARPOON WITH BARB DOWN",
     "DOWNWARDS HARPOON WITH BARB LEFT BESIDE DOWNWARDS HARPOON WITH BARB RIGHT",
     "LEFTWARDS HARPOON WITH BARB UP ABOVE RIGHTWARDS HARPOON WITH BARB UP",
     "4 DOWN ABOVE RIGHTWARDS HARPOON WITH BARB DOWN",
     "RIGHTWARDS HARPOON WITH BARB UP ABOVE LEFTWARDS HARPOON WITH BARB UP",
     "4 DOWN ABOVE LEFTWARDS HARPOON WITH BARB DOWN",
     "LEFTWARDS HARPOON WITH BARB UP ABOVE LONG DASH;4 DOWN BELOW LONG DASH",
     "RIGHTWARDS HARPOON WITH BARB UP ABOVE LONG DASH;4 DOWN BELOW LONG DASH",
     "UPWARDS HARPOON WITH BARB LEFT BESIDE DOWNWARDS HARPOON WITH BARB RIGHT",
     "DOWNWARDS HARPOON WITH BARB LEFT BESIDE UPWARDS HARPOON WITH BARB RIGHT",
     "RIGHT DOUBLE ARROW WITH ROUNDED HEAD;EQUALS SIGN ABOVE RIGHTWARDS ARROW",
     "TILDE OPERATOR ABOVE RIGHTWARDS ARROW;LEFTWARDS ARROW ABOVE TILDE OPERATOR",
     "RIGHTWARDS ARROW ABOVE TILDE OPERATOR;3 ALMOST EQUAL TO;LESS-THAN ABOVE LEFTWARDS ARROW",
     "LEFTWARDS ARROW THROUGH LESS-THAN;GREATER-THAN ABOVE RIGHTWARDS ARROW",
     "SUBSET ABOVE RIGHTWARDS ARROW;LEFTWARDS ARROW THROUGH SUBSET",
     "SUPERSET ABOVE LEFTWARDS ARROW;LEFT FISH TAIL;RIGHT FISH TAIL;UP FISH TAIL",
     "DOWN FISH TAIL;TRIPLE VERTICAL BAR DELIMITER;Z NOTATION SPOT;2 TYPE COLON",
     "LEFT WHITE CURLY BRACKET;RIGHT WHITE CURLY BRACKET;LEFT WHITE PARENTHESIS",
     "RIGHT WHITE PARENTHESIS;Z NOTATION LEFT IMAGE BRACKET;2 RIGHT IMAGE BRACKET",
     "2 LEFT BINDING BRACKET;2 RIGHT BINDING BRACKET;LEFT SQUARE BRACKET WITH UNDERBAR",
     "RIGHT SQUARE BRACKET WITH UNDERBAR;LEFT SQUARE BRACKET WITH TICK IN TOP CORNER",
     "RIGHT SQUARE BRACKET WITH TICK IN BOTTOM CORNER",
     "LEFT SQUARE BRACKET WITH TICK IN BOTTOM CORNER",
     "RIGHT SQUARE BRACKET WITH TICK IN TOP CORNER;LEFT ANGLE BRACKET WITH DOT",
     "RIGHT ANGLE BRACKET WITH DOT;LEFT ARC LESS-THAN BRACKET;RIGHT ARC GREATER-THAN BRACKET",
     "DOUBLE LEFT ARC GREATER-THAN BRACKET;1 RIGHT ARC LESS-THAN BRACKET",
     "LEFT BLACK TORTOISE SHELL BRACKET;RIGHT BLACK TORTOISE SHELL BRACKET;DOTTED FENCE",
     "VERTICAL ZIGZAG LINE;MEASURED ANGLE OPENING LEFT;RIGHT ANGLE VARIANT WITH SQUARE",
     "MEASURED RIGHT ANGLE WITH DOT;ANGLE WITH S INSIDE;ACUTE ANGLE",
     "SPHERICAL ANGLE OPENING LEFT;3 UP;TURNED ANGLE;REVERSED ANGLE;ANGLE WITH UNDERBAR",
     "REVERSED ANGLE WITH UNDERBAR;OBLIQUE ANGLE OPENING UP;3 DOWN",
     "MEASURED ANGLE WITH OPEN ARM ENDING IN ARROW POINTING UP AND RIGHT;9 UP AND LEFT",
     "9 DOWN AND RIGHT;9 DOWN AND LEFT;9 RIGHT AND UP;9 LEFT AND UP;9 RIGHT AND DOWN",
     "9 LEFT AND DOWN;REVERSED EMPTY SET;EMPTY SET WITH OVERBAR;3 SMALL CIRCLE ABOVE",
     "3 RIGHT ARROW ABOVE;3 LEFT ARROW ABOVE;CIRCLE WITH HORIZONTAL BAR;CIRCLED VERTICAL BAR",
     "1 PARALLEL;1 REVERSE SOLIDUS;1 PERPENDICULAR",
     "CIRCLE DIVIDED BY HORIZONTAL BAR AND TOP HALF DIVIDED BY VERTICAL BAR",
     "1 WITH SUPERIMPOSED X;CIRCLED ANTICLOCKWISE-ROTATED DIVISION SIGN",
     "UP ARROW THROUGH CIRCLE;CIRCLED WHITE BULLET;1 BULLET;1 LESS-THAN;1 GREATER-THAN",
     "CIRCLE WITH SMALL CIRCLE TO THE RIGHT;2 TWO HORIZONTAL STROKES TO THE RIGHT",
     "SQUARED RISING DIAGONAL SLASH;1 FALLING DIAGONAL SLASH;1 ASTERISK;1 SMALL CIRCLE",
     "1 SQUARE;TWO JOINED SQUARES;TRIANGLE WITH DOT ABOVE;2 UNDERBAR;S IN TRIANGLE",
     "TRIANGLE WITH SERIFS AT BOTTOM;RIGHT TRIANGLE ABOVE LEFT TRIANGLE",
     "LEFT TRIANGLE BESIDE VERTICAL BAR;VERTICAL BAR BESIDE RIGHT TRIANGLE",
     "BOWTIE WITH LEFT HALF BLACK;2 RIGHT HALF BLACK;BLACK BOWTIE;TIMES WITH LEFT HALF BLACK",
     "2 RIGHT HALF BLACK;WHITE HOURGLASS;BLACK HOURGLASS;LEFT WIGGLY FENCE;RIGHT WIGGLY FENCE",
     "LEFT DOUBLE WIGGLY FENCE;RIGHT DOUBLE WIGGLY FENCE;INCOMPLETE INFINITY;TIE OVER INFINITY",
     "INFINITY NEGATED WITH VERTICAL BAR;DOUBLE-ENDED MULTIMAP;SQUARE WITH CONTOURED OUTLINE",
     "INCREASES AS;SHUFFLE PRODUCT;EQUALS SIGN AND SLANTED PARALLEL;5 WITH TILDE ABOVE",
     "IDENTICAL TO AND SLANTED PARALLEL;GLEICH STARK;THERMODYNAMIC",
     "DOWN-POINTING TRIANGLE WITH LEFT HALF BLACK;3 RIGHT HALF BLACK",
     "BLACK DIAMOND WITH DOWN ARROW;1 LOZENGE;WHITE CIRCLE WITH DOWN ARROW",
     "BLACK CIRCLE WITH DOWN ARROW;ERROR-BARRED WHITE SQUARE;1 BLACK SQUARE;1 WHITE DIAMOND",
     "1 BLACK DIAMOND;1 WHITE CIRCLE;1 BLACK CIRCLE;RULE-DELAYED;REVERSE SOLIDUS OPERATOR",
     "SOLIDUS WITH OVERBAR;REVERSE SOLIDUS WITH HORIZONTAL STROKE;BIG SOLIDUS",
     "1 REVERSE SOLIDUS;DOUBLE PLUS;TRIPLE PLUS;LEFT-POINTING CURVED ANGLE BRACKET",
     "RIGHT-POINTING CURVED ANGLE BRACKET;TINY;MINY;N-ARY CIRCLED DOT OPERATOR;2 PLUS OPERATOR",
     "2 TIMES OPERATOR;1 UNION OPERATOR WITH DOT;4 PLUS;1 SQUARE INTERSECTION OPERATOR",
     "2 UNION OPERATOR;TWO LOGICAL AND OPERATOR;2 OR OPERATOR;N-ARY TIMES OPERATOR",
     "MODULO TWO SUM;SUMMATION WITH INTEGRAL;QUADRUPLE INTEGRAL OPERATOR;FINITE PART INTEGRAL",
     "INTEGRAL WITH DOUBLE STROKE;1 AVERAGE WITH SLASH;CIRCULATION FUNCTION",
     "ANTICLOCKWISE INTEGRATION;LINE INTEGRATION WITH RECTANGULAR PATH AROUND POLE",
     "3 SEMICIRCULAR PATH AROUND POLE;2 NOT INCLUDING THE POLE",
     "INTEGRAL AROUND A POINT OPERATOR;QUATERNION INTEGRAL OPERATOR",
     "INTEGRAL WITH LEFTWARDS ARROW WITH HOOK;2 TIMES SIGN;2 INTERSECTION;2 UNION;2 OVERBAR",
     "2 UNDERBAR;JOIN;LARGE LEFT TRIANGLE OPERATOR;Z NOTATION SCHEMA COMPOSITION;3 PIPING",
     "3 PROJECTION;PLUS SIGN WITH SMALL CIRCLE ABOVE;3 CIRCUMFLEX ACCENT ABOVE;3 TILDE ABOVE",
     "3 DOT BELOW;3 TILDE BELOW;3 SUBSCRIPT TWO;3 BLACK TRIANGLE;MINUS SIGN WITH COMMA ABOVE",
     "3 DOT BELOW;3 FALLING DOTS;3 RISING DOTS;PLUS SIGN IN LEFT HALF CIRCLE",
     "3 RIGHT HALF CIRCLE;VECTOR OR CROSS PRODUCT;MULTIPLICATION SIGN WITH DOT ABOVE",
     "3 UNDERBAR;SEMIDIRECT PRODUCT WITH BOTTOM CLOSED;SMASH PRODUCT",
     "MULTIPLICATION SIGN IN LEFT HALF CIRCLE;3 RIGHT HALF CIRCLE",
     "CIRCLED MULTIPLICATION SIGN WITH CIRCUMFLEX ACCENT;MULTIPLICATION SIGN IN DOUBLE CIRCLE",
     "CIRCLED DIVISION SIGN;PLUS SIGN IN TRIANGLE;MINUS SIGN IN TRIANGLE",
     "MULTIPLICATION SIGN IN TRIANGLE;INTERIOR PRODUCT;RIGHTHAND INTERIOR PRODUCT",
     "Z NOTATION RELATIONAL COMPOSITION;AMALGAMATION OR COPRODUCT;INTERSECTION WITH DOT",
     "UNION WITH MINUS SIGN;2 OVERBAR;INTERSECTION WITH OVERBAR;2 LOGICAL AND",
     "UNION WITH LOGICAL OR;1 ABOVE INTERSECTION;INTERSECTION ABOVE UNION",
     "UNION ABOVE BAR ABOVE INTERSECTION;INTERSECTION ABOVE BAR ABOVE UNION",
     "UNION BESIDE AND JOINED WITH UNION;INTERSECTION BESIDE AND JOINED WITH INTERSECTION",
     "CLOSED UNION WITH SERIFS;1 INTERSECTION WITH SERIFS;DOUBLE SQUARE INTERSECTION;2 UNION",
     "CLOSED UNION WITH SERIFS AND SMASH PRODUCT;LOGICAL AND WITH DOT ABOVE",
     "1 OR WITH DOT ABOVE;DOUBLE LOGICAL AND;2 OR;TWO INTERSECTING LOGICAL AND;3 OR",
     "SLOPING LARGE OR;2 AND;LOGICAL OR OVERLAPPING LOGICAL AND;1 AND WITH MIDDLE STEM",
     "1 OR WITH MIDDLE STEM;1 AND WITH HORIZONTAL DASH;1 OR WITH HORIZONTAL DASH",
     "1 AND WITH DOUBLE OVERBAR;3 UNDERBAR;3 DOUBLE UNDERBAR;SMALL VEE WITH UNDERBAR",
     "LOGICAL OR WITH DOUBLE OVERBAR;4 UNDERBAR;Z NOTATION DOMAIN ANTIRESTRICTION",
     "2 RANGE ANTIRESTRICTION;EQUALS SIGN WITH DOT BELOW;IDENTICAL WITH DOT ABOVE",
     "TRIPLE HORIZONTAL BAR WITH DOUBLE VERTICAL STROKE;4 TRIPLE VERTICAL STROKE",
     "TILDE OPERATOR WITH DOT ABOVE;3 RISING DOTS;SIMILAR MINUS SIMILAR",
     "CONGRUENT WITH DOT ABOVE;EQUALS WITH ASTERISK;ALMOST EQUAL TO WITH CIRCUMFLEX ACCENT",
     "APPROXIMATELY EQUAL OR EQUAL TO;EQUALS SIGN ABOVE PLUS SIGN;PLUS SIGN ABOVE EQUALS SIGN",
     "EQUALS SIGN ABOVE TILDE OPERATOR;DOUBLE COLON EQUAL;TWO CONSECUTIVE EQUALS SIGNS",
     "THREE CONSECUTIVE EQUALS SIGNS;EQUALS SIGN WITH TWO DOTS ABOVE AND TWO DOTS BELOW",
     "EQUIVALENT WITH FOUR DOTS ABOVE;LESS-THAN WITH CIRCLE INSIDE",
     "GREATER-THAN WITH CIRCLE INSIDE;LESS-THAN WITH QUESTION MARK ABOVE",
     "GREATER-THAN WITH QUESTION MARK ABOVE;LESS-THAN OR SLANTED EQUAL TO",
     "GREATER-THAN OR SLANTED EQUAL TO;LESS-THAN OR SLANTED EQUAL TO WITH DOT INSIDE",
     "GREATER-THAN OR SLANTED EQUAL TO WITH DOT INSIDE",
     "LESS-THAN OR SLANTED EQUAL TO WITH DOT ABOVE",
     "GREATER-THAN OR SLANTED EQUAL TO WITH DOT ABOVE",
     "LESS-THAN OR SLANTED EQUAL TO WITH DOT ABOVE RIGHT",
     "GREATER-THAN OR SLANTED EQUAL TO WITH DOT ABOVE LEFT;LESS-THAN OR APPROXIMATE",
     "GREATER-THAN OR APPROXIMATE;LESS-THAN AND SINGLE-LINE NOT EQUAL TO",
     "GREATER-THAN AND SINGLE-LINE NOT EQUAL TO;LESS-THAN AND NOT APPROXIMATE",
     "GREATER-THAN AND NOT APPROXIMATE;LESS-THAN ABOVE DOUBLE-LINE EQUAL ABOVE GREATER-THAN",
     "GREATER-THAN ABOVE DOUBLE-LINE EQUAL ABOVE LESS-THAN;LESS-THAN ABOVE SIMILAR OR EQUAL",
     "GREATER-THAN ABOVE SIMILAR OR EQUAL;LESS-THAN ABOVE SIMILAR ABOVE GREATER-THAN",
     "GREATER-THAN ABOVE SIMILAR ABOVE LESS-THAN",
     "LESS-THAN ABOVE GREATER-THAN ABOVE DOUBLE-LINE EQUAL",
     "GREATER-THAN ABOVE LESS-THAN ABOVE DOUBLE-LINE EQUAL",
     "LESS-THAN ABOVE SLANTED EQUAL ABOVE GREATER-THAN ABOVE SLANTED EQUAL",
     "GREATER-THAN ABOVE SLANTED EQUAL ABOVE LESS-THAN ABOVE SLANTED EQUAL",
     "SLANTED EQUAL TO OR LESS-THAN;4 GREATER-THAN;4 LESS-THAN WITH DOT INSIDE",
     "4 GREATER-THAN WITH DOT INSIDE;DOUBLE-LINE EQUAL TO OR LESS-THAN;4 GREATER-THAN",
     "1 SLANTED EQUAL TO OR LESS-THAN;5 GREATER-THAN;SIMILAR OR LESS-THAN;2 GREATER-THAN",
     "1 ABOVE LESS-THAN ABOVE EQUALS SIGN;2 GREATER-THAN ABOVE EQUALS SIGN",
     "DOUBLE NESTED LESS-THAN;2 GREATER-THAN;2 LESS-THAN WITH UNDERBAR",
     "GREATER-THAN OVERLAPPING LESS-THAN;1 BESIDE LESS-THAN;LESS-THAN CLOSED BY CURVE",
     "GREATER-THAN CLOSED BY CURVE;LESS-THAN CLOSED BY CURVE ABOVE SLANTED EQUAL",
     "GREATER-THAN CLOSED BY CURVE ABOVE SLANTED EQUAL;SMALLER THAN;LARGER THAN",
     "SMALLER THAN OR EQUAL TO;LARGER THAN OR EQUAL TO;EQUALS SIGN WITH BUMPY ABOVE",
     "PRECEDES ABOVE SINGLE-LINE EQUALS SIGN;SUCCEEDS ABOVE SINGLE-LINE EQUALS SIGN",
     "PRECEDES ABOVE SINGLE-LINE NOT EQUAL TO;SUCCEEDS ABOVE SINGLE-LINE NOT EQUAL TO",
     "PRECEDES ABOVE EQUALS SIGN;SUCCEEDS ABOVE EQUALS SIGN;PRECEDES ABOVE NOT EQUAL TO",
     "SUCCEEDS ABOVE NOT EQUAL TO;PRECEDES ABOVE ALMOST EQUAL TO",
     "SUCCEEDS ABOVE ALMOST EQUAL TO;PRECEDES ABOVE NOT ALMOST EQUAL TO",
     "SUCCEEDS ABOVE NOT ALMOST EQUAL TO;DOUBLE PRECEDES;1 SUCCEEDS;SUBSET WITH DOT",
     "SUPERSET WITH DOT;SUBSET WITH PLUS SIGN BELOW;SUPERSET WITH PLUS SIGN BELOW",
     "SUBSET WITH MULTIPLICATION SIGN BELOW;SUPERSET WITH MULTIPLICATION SIGN BELOW",
     "SUBSET OF OR EQUAL TO WITH DOT ABOVE;SUPERSET OF OR EQUAL TO WITH DOT ABOVE",
     "SUBSET OF ABOVE EQUALS SIGN;SUPERSET OF ABOVE EQUALS SIGN;SUBSET OF ABOVE TILDE OPERATOR",
     "SUPERSET OF ABOVE TILDE OPERATOR;SUBSET OF ABOVE ALMOST EQUAL TO",
     "SUPERSET OF ABOVE ALMOST EQUAL TO;SUBSET OF ABOVE NOT EQUAL TO",
     "SUPERSET OF ABOVE NOT EQUAL TO;SQUARE LEFT OPEN BOX OPERATOR;1 RIGHT OPEN BOX OPERATOR",
     "CLOSED SUBSET;1 SUPERSET;1 SUBSET OR EQUAL TO;1 SUPERSET OR EQUAL TO",
     "SUBSET ABOVE SUPERSET;SUPERSET ABOVE SUBSET;SUBSET ABOVE SUBSET;SUPERSET ABOVE SUPERSET",
     "1 BESIDE SUBSET;2 AND JOINED BY DASH WITH SUBSET;ELEMENT OF OPENING DOWNWARDS",
     "PITCHFORK WITH TEE TOP;TRANSVERSAL INTERSECTION;FORKING;NONFORKING;SHORT LEFT TACK",
     "1 DOWN TACK;1 UP TACK;PERPENDICULAR WITH S;VERTICAL BAR TRIPLE RIGHT TURNSTILE",
     "DOUBLE VERTICAL BAR LEFT TURNSTILE;VERTICAL BAR DOUBLE LEFT TURNSTILE",
     "DOUBLE VERTICAL BAR DOUBLE LEFT TURNSTILE;LONG DASH FROM LEFT MEMBER OF DOUBLE VERTICAL",
     "SHORT DOWN TACK WITH OVERBAR;1 UP TACK WITH UNDERBAR;3 ABOVE SHORT DOWN TACK",
     "DOUBLE DOWN TACK;1 UP TACK;1 STROKE NOT SIGN;REVERSED DOUBLE STROKE NOT SIGN",
     "DOES NOT DIVIDE WITH REVERSED NEGATION SLASH;VERTICAL LINE WITH CIRCLE ABOVE;4 BELOW",
     "DOWN TACK WITH CIRCLE BELOW;PARALLEL WITH HORIZONTAL STROKE;2 TILDE OPERATOR",
     "TRIPLE VERTICAL BAR BINARY RELATION;3 WITH HORIZONTAL STROKE;1 COLON OPERATOR",
     "1 NESTED LESS-THAN;2 GREATER-THAN;DOUBLE-LINE SLANTED LESS-THAN OR EQUAL TO",
     "2 GREATER-THAN OR EQUAL TO;TRIPLE SOLIDUS BINARY RELATION",
     "LARGE TRIPLE VERTICAL BAR OPERATOR;DOUBLE SOLIDUS OPERATOR;WHITE VERTICAL BAR",
     "N-ARY WHITE VERTICAL BAR;NORTH EAST WHITE ARROW;1 WEST WHITE ARROW",
     "SOUTH EAST WHITE ARROW;1 WEST WHITE ARROW;LEFT RIGHT WHITE ARROW;LEFTWARDS BLACK ARROW",
     "UPWARDS BLACK ARROW;DOWNWARDS BLACK ARROW;NORTH EAST BLACK ARROW;1 WEST BLACK ARROW",
     "SOUTH EAST BLACK ARROW;1 WEST BLACK ARROW;LEFT RIGHT BLACK ARROW;UP DOWN BLACK ARROW",
     "RIGHTWARDS ARROW WITH TIP DOWNWARDS;4 UPWARDS;LEFTWARDS ARROW WITH TIP DOWNWARDS",
     "4 UPWARDS;SQUARE WITH TOP HALF BLACK;2 BOTTOM HALF BLACK",
     "2 UPPER RIGHT DIAGONAL HALF BLACK;2 LOWER LEFT DIAGONAL HALF BLACK",
     "DIAMOND WITH LEFT HALF BLACK;2 RIGHT HALF BLACK;2 TOP HALF BLACK;2 BOTTOM HALF BLACK",
     "DOTTED SQUARE;BLACK LARGE SQUARE;WHITE LARGE SQUARE;BLACK VERY SMALL SQUARE",
     "WHITE VERY SMALL SQUARE;BLACK PENTAGON;WHITE PENTAGON;1 HEXAGON;BLACK HEXAGON",
     "HORIZONTAL BLACK HEXAGON;BLACK LARGE CIRCLE;1 MEDIUM DIAMOND;WHITE MEDIUM DIAMOND",
     "BLACK MEDIUM LOZENGE;WHITE MEDIUM LOZENGE;BLACK SMALL DIAMOND;2 LOZENGE",
     "WHITE SMALL LOZENGE;BLACK HORIZONTAL ELLIPSE;WHITE HORIZONTAL ELLIPSE",
     "BLACK VERTICAL ELLIPSE;WHITE VERTICAL ELLIPSE;LEFT ARROW WITH SMALL CIRCLE",
     "THREE LEFTWARDS ARROWS;LEFT ARROW WITH CIRCLED PLUS;LONG LEFTWARDS SQUIGGLE ARROW",
     "LEFTWARDS TWO-HEADED ARROW WITH VERTICAL STROKE;4 DOUBLE VERTICAL STROKE;3 FROM BAR",
     "2 TRIPLE DASH ARROW;1 ARROW WITH DOTTED STEM;3 TAIL WITH VERTICAL STROKE",
     "5 DOUBLE VERTICAL STROKE;1 TWO-HEADED ARROW WITH TAIL;5 WITH VERTICAL STROKE",
     "6 DOUBLE VERTICAL STROKE;1 ARROW THROUGH X;WAVE ARROW POINTING DIRECTLY LEFT",
     "EQUALS SIGN ABOVE LEFTWARDS ARROW;REVERSE TILDE OPERATOR ABOVE LEFTWARDS ARROW",
     "LEFTWARDS ARROW ABOVE REVERSE ALMOST EQUAL TO;RIGHTWARDS ARROW THROUGH GREATER-THAN",
     "3 SUPERSET;LEFTWARDS QUADRUPLE ARROW;RIGHTWARDS QUADRUPLE ARROW",
     "REVERSE TILDE OPERATOR ABOVE RIGHTWARDS ARROW",
     "RIGHTWARDS ARROW ABOVE REVERSE ALMOST EQUAL TO;TILDE OPERATOR ABOVE LEFTWARDS ARROW",
     "LEFTWARDS ARROW ABOVE ALMOST EQUAL TO;3 REVERSE TILDE OPERATOR",
     "RIGHTWARDS ARROW ABOVE REVERSE TILDE OPERATOR;DOWNWARDS TRIANGLE-HEADED ZIGZAG ARROW",
     "SHORT SLANTED NORTH ARROW;1 BACKSLANTED SOUTH ARROW;WHITE MEDIUM STAR;BLACK SMALL STAR",
     "WHITE SMALL STAR;BLACK RIGHT-POINTING PENTAGON;WHITE RIGHT-POINTING PENTAGON",
     "HEAVY LARGE CIRCLE;1 OVAL WITH OVAL INSIDE;1 CIRCLE WITH CIRCLE INSIDE;1 CIRCLE",
     "1 CIRCLED SALTIRE;SLANTED NORTH ARROW WITH HOOKED HEAD",
     "BACKSLANTED SOUTH ARROW WITH HOOKED TAIL;SLANTED NORTH ARROW WITH HORIZONTAL TAIL",
     "BACKSLANTED SOUTH ARROW WITH HORIZONTAL TAIL",
     "BENT ARROW POINTING DOWNWARDS THEN NORTH EAST",
     "SHORT BENT ARROW POINTING DOWNWARDS THEN NORTH EAST;LEFTWARDS TRIANGLE-HEADED ARROW",
     "UPWARDS TRIANGLE-HEADED ARROW;RIGHTWARDS TRIANGLE-HEADED ARROW",
     "DOWNWARDS TRIANGLE-HEADED ARROW;LEFT RIGHT TRIANGLE-HEADED ARROW",
     "UP DOWN TRIANGLE-HEADED ARROW;NORTH WEST TRIANGLE-HEADED ARROW",
     "1 EAST TRIANGLE-HEADED ARROW;SOUTH EAST TRIANGLE-HEADED ARROW",
     "1 WEST TRIANGLE-HEADED ARROW;LEFTWARDS TRIANGLE-HEADED DASHED ARROW",
     "UPWARDS TRIANGLE-HEADED DASHED ARROW;RIGHTWARDS TRIANGLE-HEADED DASHED ARROW",
     "DOWNWARDS TRIANGLE-HEADED DASHED ARROW;CLOCKWISE TRIANGLE-HEADED OPEN CIRCLE ARROW",
     "ANTICLOCKWISE TRIANGLE-HEADED OPEN CIRCLE ARROW;LEFTWARDS TRIANGLE-HEADED ARROW TO BAR",
     "UPWARDS TRIANGLE-HEADED ARROW TO BAR;RIGHTWARDS TRIANGLE-HEADED ARROW TO BAR",
     "DOWNWARDS TRIANGLE-HEADED ARROW TO BAR"]),
   (11126,
    ["NORTH WEST TRIANGLE-HEADED ARROW TO BAR;1 EAST TRIANGLE-HEADED ARROW TO BAR",
     "SOUTH EAST TRIANGLE-HEADED ARROW TO BAR;1 WEST TRIANGLE-HEADED ARROW TO BAR",
     "LEFTWARDS TRIANGLE-HEADED ARROW WITH DOUBLE HORIZONTAL STROKE",
     "UPWARDS TRIANGLE-HEADED ARROW WITH DOUBLE HORIZONTAL STROKE",
     "RIGHTWARDS TRIANGLE-HEADED ARROW WITH DOUBLE HORIZONTAL STROKE",
     "DOWNWARDS TRIANGLE-HEADED ARROW WITH DOUBLE HORIZONTAL STROKE;HORIZONTAL TAB KEY",
     "VERTICAL TAB KEY;LEFTWARDS TRIANGLE-HEADED ARROW OVER RIGHTWARDS TRIANGLE-HEADED ARROW",
     "UPWARDS TRIANGLE-HEADED ARROW LEFTWARDS OF DOWNWARDS TRIANGLE-HEADED ARROW",
     "RIGHTWARDS TRIANGLE-HEADED ARROW OVER LEFTWARDS TRIANGLE-HEADED ARROW",
     "DOWNWARDS TRIANGLE-HEADED ARROW LEFTWARDS OF UPWARDS TRIANGLE-HEADED ARROW",
     "LEFTWARDS TRIANGLE-HEADED PAIRED ARROWS;UPWARDS TRIANGLE-HEADED PAIRED ARROWS",
     "RIGHTWARDS TRIANGLE-HEADED PAIRED ARROWS;DOWNWARDS TRIANGLE-HEADED PAIRED ARROWS",
     "LEFTWARDS BLACK CIRCLED WHITE ARROW;UPWARDS BLACK CIRCLED WHITE ARROW",
     "RIGHTWARDS BLACK CIRCLED WHITE ARROW;DOWNWARDS BLACK CIRCLED WHITE ARROW",
     "ANTICLOCKWISE TRIANGLE-HEADED RIGHT U-SHAPED ARROW;2 BOTTOM U-SHAPED ARROW",
     "2 LEFT U-SHAPED ARROW;2 TOP U-SHAPED ARROW;RETURN LEFT;1 RIGHT;NEWLINE LEFT;1 RIGHT",
     "FOUR CORNER ARROWS CIRCLING ANTICLOCKWISE;RIGHTWARDS BLACK ARROW"]),
   (11159,
    ["SYMBOL FOR TYPE A ELECTRONICS;THREE-D TOP-LIGHTED LEFTWARDS EQUILATERAL ARROWHEAD",
     "1 RIGHT-LIGHTED UPWARDS EQUILATERAL ARROWHEAD",
     "1 TOP-LIGHTED RIGHTWARDS EQUILATERAL ARROWHEAD",
     "1 LEFT-LIGHTED DOWNWARDS EQUILATERAL ARROWHEAD;BLACK LEFTWARDS EQUILATERAL ARROWHEAD",
     "1 UPWARDS EQUILATERAL ARROWHEAD;1 RIGHTWARDS EQUILATERAL ARROWHEAD",
     "1 DOWNWARDS EQUILATERAL ARROWHEAD",
     "DOWNWARDS TRIANGLE-HEADED ARROW WITH LONG TIP LEFTWARDS;6 RIGHTWARDS",
     "UPWARDS TRIANGLE-HEADED ARROW WITH LONG TIP LEFTWARDS;6 RIGHTWARDS",
     "LEFTWARDS TRIANGLE-HEADED ARROW WITH LONG TIP UPWARDS",
     "RIGHTWARDS TRIANGLE-HEADED ARROW WITH LONG TIP UPWARDS",
     "LEFTWARDS TRIANGLE-HEADED ARROW WITH LONG TIP DOWNWARDS",
     "RIGHTWARDS TRIANGLE-HEADED ARROW WITH LONG TIP DOWNWARDS",
     "BLACK CURVED DOWNWARDS AND LEFTWARDS ARROW;4 RIGHTWARDS ARROW",
     "2 UPWARDS AND LEFTWARDS ARROW;4 RIGHTWARDS ARROW;2 LEFTWARDS AND UPWARDS ARROW",
     "2 RIGHTWARDS AND UPWARDS ARROW;2 LEFTWARDS AND DOWNWARDS ARROW",
     "2 RIGHTWARDS AND DOWNWARDS ARROW;RIBBON ARROW DOWN LEFT;3 RIGHT;2 UP LEFT;3 RIGHT",
     "2 LEFT UP;2 RIGHT UP;2 LEFT DOWN;2 RIGHT DOWN",
     "UPWARDS WHITE ARROW FROM BAR WITH HORIZONTAL BAR;UP ARROWHEAD IN A RECTANGLE BOX",
     "OVERLAPPING WHITE SQUARES;2 AND BLACK SQUARES;1 BLACK SQUARES;BALLOT BOX WITH LIGHT X",
     "CIRCLED X;1 BOLD X;BLACK SQUARE CENTRED;1 DIAMOND CENTRED;TURNED BLACK PENTAGON",
     "HORIZONTAL BLACK OCTAGON;BLACK OCTAGON;1 MEDIUM UP-POINTING TRIANGLE CENTRED",
     "2 DOWN-POINTING TRIANGLE CENTRED;2 LEFT-POINTING TRIANGLE CENTRED",
     "2 RIGHT-POINTING TRIANGLE CENTRED;NEPTUNE FORM TWO;TOP HALF BLACK CIRCLE",
     "BOTTOM HALF BLACK CIRCLE;LIGHT FOUR POINTED BLACK CUSP",
     "ROTATED LIGHT FOUR POINTED BLACK CUSP;WHITE FOUR POINTED CUSP",
     "ROTATED WHITE FOUR POINTED CUSP;SQUARE POSITION INDICATOR;UNCERTAINTY SIGN;GROUP MARK",
     "PLUTO FORM TWO;2 THREE;2 FOUR;2 FIVE;TRANSPLUTO;PROSERPINA;ASTRAEA;HYGIEA;PHOLUS;NESSUS",
     "WHITE MOON SELENA;BLACK DIAMOND ON CROSS;TRUE LIGHT MOON ARTA;CUPIDO;HADES;ZEUS;KRONOS",
     "APOLLON;ADMETOS;VULCANUS;POSEIDON;LEFT HALF BLACK STAR;RIGHT HALF BLACK STAR",
     "STAR WITH LEFT HALF BLACK;2 RIGHT HALF BLACK",
     "LEFTWARDS TWO-HEADED ARROW WITH TRIANGLE ARROWHEADS",
     "UPWARDS TWO-HEADED ARROW WITH TRIANGLE ARROWHEADS",
     "RIGHTWARDS TWO-HEADED ARROW WITH TRIANGLE ARROWHEADS",
     "DOWNWARDS TWO-HEADED ARROW WITH TRIANGLE ARROWHEADS;ERIS FORM ONE;2 TWO;SEDNA",
     "RUSSIAN ASTROLOGICAL SYMBOL VIGINTILE;3 NOVILE;3 QUINTILE;3 BINOVILE;3 SENTAGON",
     "3 TREDECILE;EQUALS SIGN WITH INFINITY BELOW;UNITED SYMBOL;SEPARATED SYMBOL",
     "DOUBLED SYMBOL;PASSED SYMBOL;REVERSED RIGHT ANGLE;HELLSCHREIBER PAUSE SYMBOL",
     "GLAGOLITIC CAPITAL LETTER AZU;3 BUKY;3 VEDE;3 GLAGOLI;3 DOBRO;3 YESTU;3 ZHIVETE;3 DZELO",
     "3 ZEMLJA;3 IZHE;3 INITIAL IZHE;3 I;3 DJERVI;3 KAKO;3 LJUDIJE;3 MYSLITE;3 NASHI;3 ONU",
     "3 POKOJI;3 RITSI;3 SLOVO;3 TVRIDO;3 UKU;3 FRITU;3 HERU;3 OTU;3 PE;3 SHTA;3 TSI;3 CHRIVI",
     "3 SHA;3 YERU;3 YERI;3 YATI;3 SPIDERY HA;3 YU;3 SMALL YUS;5 WITH TAIL;3 YO",
     "3 IOTATED SMALL YUS;3 BIG YUS;3 IOTATED BIG YUS;3 FITA;3 IZHITSA;3 SHTAPIC",
     "3 TROKUTASTI A;3 LATINATE MYSLITE;3 CAUDATE CHRIVI;1 SMALL LETTER AZU;3 BUKY;3 VEDE",
     "3 GLAGOLI;3 DOBRO;3 YESTU;3 ZHIVETE;3 DZELO;3 ZEMLJA;3 IZHE;3 INITIAL IZHE;3 I;3 DJERVI",
     "3 KAKO;3 LJUDIJE;3 MYSLITE;3 NASHI;3 ONU;3 POKOJI;3 RITSI;3 SLOVO;3 TVRIDO;3 UKU;3 FRITU",
     "3 HERU;3 OTU;3 PE;3 SHTA;3 TSI;3 CHRIVI;3 SHA;3 YERU;3 YERI;3 YATI;3 SPIDERY HA;3 YU",
     "3 SMALL YUS;5 WITH TAIL;3 YO;3 IOTATED SMALL YUS;3 BIG YUS;3 IOTATED BIG YUS;3 FITA",
     "3 IZHITSA;3 SHTAPIC;3 TROKUTASTI A;3 LATINATE MYSLITE;3 CAUDATE CHRIVI",
     "LATIN CAPITAL LETTER L WITH DOUBLE BAR;1 SMALL LETTER L WITH DOUBLE BAR",
     "1 CAPITAL LETTER L WITH MIDDLE TILDE;3 P WITH STROKE;3 R WITH TAIL",
     "1 SMALL LETTER A WITH STROKE;3 T WITH DIAGONAL STROKE;1 CAPITAL LETTER H WITH DESCENDER",
     "1 SMALL LETTER H WITH DESCENDER;1 CAPITAL LETTER K WITH DESCENDER",
     "1 SMALL LETTER K WITH DESCENDER;1 CAPITAL LETTER Z WITH DESCENDER",
     "1 SMALL LETTER Z WITH DESCENDER;1 CAPITAL LETTER ALPHA;3 M WITH HOOK;3 TURNED A;4 ALPHA",
     "1 SMALL LETTER V WITH RIGHT HOOK;1 CAPITAL LETTER W WITH HOOK;1 SMALL LETTER W WITH HOOK",
     "3 V WITH CURL;1 CAPITAL LETTER HALF H;1 SMALL LETTER HALF H;3 TAILLESS PHI",
     "3 E WITH NOTCH;3 TURNED R WITH TAIL;3 O WITH LOW RING INSIDE",
     "1 LETTER SMALL CAPITAL TURNED E;1 SUBSCRIPT SMALL LETTER J;MODIFIER LETTER CAPITAL V",
     "LATIN CAPITAL LETTER S WITH SWASH TAIL;3 Z WITH SWASH TAIL;COPTIC CAPITAL LETTER ALFA",
     "1 SMALL LETTER ALFA;1 CAPITAL LETTER VIDA;1 SMALL LETTER VIDA;1 CAPITAL LETTER GAMMA",
     "1 SMALL LETTER GAMMA;1 CAPITAL LETTER DALDA;1 SMALL LETTER DALDA;1 CAPITAL LETTER EIE",
     "1 SMALL LETTER EIE;1 CAPITAL LETTER SOU;1 SMALL LETTER SOU;1 CAPITAL LETTER ZATA",
     "1 SMALL LETTER ZATA;1 CAPITAL LETTER HATE;1 SMALL LETTER HATE;1 CAPITAL LETTER THETHE",
     "1 SMALL LETTER THETHE;1 CAPITAL LETTER IAUDA;1 SMALL LETTER IAUDA;1 CAPITAL LETTER KAPA",
     "1 SMALL LETTER KAPA;1 CAPITAL LETTER LAULA;1 SMALL LETTER LAULA;1 CAPITAL LETTER MI",
     "1 SMALL LETTER MI;1 CAPITAL LETTER NI;1 SMALL LETTER NI;1 CAPITAL LETTER KSI",
     "1 SMALL LETTER KSI;1 CAPITAL LETTER O;1 SMALL LETTER O;1 CAPITAL LETTER PI",
     "1 SMALL LETTER PI;1 CAPITAL LETTER RO;1 SMALL LETTER RO;1 CAPITAL LETTER SIMA",
     "1 SMALL LETTER SIMA;1 CAPITAL LETTER TAU;1 SMALL LETTER TAU;1 CAPITAL LETTER UA",
     "1 SMALL LETTER UA;1 CAPITAL LETTER FI;1 SMALL LETTER FI;1 CAPITAL LETTER KHI",
     "1 SMALL LETTER KHI;1 CAPITAL LETTER PSI;1 SMALL LETTER PSI;1 CAPITAL LETTER OOU",
     "1 SMALL LETTER OOU;1 CAPITAL LETTER DIALECT-P ALEF;1 SMALL LETTER DIALECT-P ALEF",
     "1 CAPITAL LETTER OLD COPTIC AIN;1 SMALL LETTER OLD COPTIC AIN",
     "1 CAPITAL LETTER CRYPTOGRAMMIC EIE;1 SMALL LETTER CRYPTOGRAMMIC EIE",
     "1 CAPITAL LETTER DIALECT-P KAPA;1 SMALL LETTER DIALECT-P KAPA",
     "1 CAPITAL LETTER DIALECT-P NI;1 SMALL LETTER DIALECT-P NI",
     "1 CAPITAL LETTER CRYPTOGRAMMIC NI;1 SMALL LETTER CRYPTOGRAMMIC NI",
     "1 CAPITAL LETTER OLD COPTIC OOU;1 SMALL LETTER OLD COPTIC OOU;1 CAPITAL LETTER SAMPI",
     "1 SMALL LETTER SAMPI;1 CAPITAL LETTER CROSSED SHEI;1 SMALL LETTER CROSSED SHEI",
     "1 CAPITAL LETTER OLD COPTIC SHEI;1 SMALL LETTER OLD COPTIC SHEI",
     "1 CAPITAL LETTER OLD COPTIC ESH;1 SMALL LETTER OLD COPTIC ESH",
     "1 CAPITAL LETTER AKHMIMIC KHEI;1 SMALL LETTER AKHMIMIC KHEI",
     "1 CAPITAL LETTER DIALECT-P HORI;1 SMALL LETTER DIALECT-P HORI",
     "1 CAPITAL LETTER OLD COPTIC HORI;1 SMALL LETTER OLD COPTIC HORI",
     "1 CAPITAL LETTER OLD COPTIC HA;1 SMALL LETTER OLD COPTIC HA;1 CAPITAL LETTER L-SHAPED HA",
     "1 SMALL LETTER L-SHAPED HA;1 CAPITAL LETTER OLD COPTIC HEI;1 SMALL LETTER OLD COPTIC HEI",
     "1 CAPITAL LETTER OLD COPTIC HAT;1 SMALL LETTER OLD COPTIC HAT",
     "1 CAPITAL LETTER OLD COPTIC GANGIA;1 SMALL LETTER OLD COPTIC GANGIA",
     "1 CAPITAL LETTER OLD COPTIC DJA;1 SMALL LETTER OLD COPTIC DJA",
     "1 CAPITAL LETTER OLD COPTIC SHIMA;1 SMALL LETTER OLD COPTIC SHIMA",
     "1 CAPITAL LETTER OLD NUBIAN SHIMA;1 SMALL LETTER OLD NUBIAN SHIMA",
     "1 CAPITAL LETTER OLD NUBIAN NGI;1 SMALL LETTER OLD NUBIAN NGI",
     "1 CAPITAL LETTER OLD NUBIAN NYI;1 SMALL LETTER OLD NUBIAN NYI",
     "1 CAPITAL LETTER OLD NUBIAN WAU;1 SMALL LETTER OLD NUBIAN WAU;1 SYMBOL KAI;2 MI RO",
     "2 PI RO;2 STAUROS;2 TAU RO;2 KHI RO;2 SHIMA SIMA;1 CAPITAL LETTER CRYPTOGRAMMIC SHEI",
     "1 SMALL LETTER CRYPTOGRAMMIC SHEI;1 CAPITAL LETTER CRYPTOGRAMMIC GANGIA",
     "1 SMALL LETTER CRYPTOGRAMMIC GANGIA;1 COMBINING NI ABOVE;2 SPIRITUS ASPER;3 LENIS",
     "1 CAPITAL LETTER BOHAIRIC KHEI;1 SMALL LETTER BOHAIRIC KHEI"]),
   (11513,
    ["COPTIC OLD NUBIAN FULL STOP;3 DIRECT QUESTION MARK;3 INDIRECT QUESTION MARK",
     "3 VERSE DIVIDER;1 FRACTION ONE HALF;1 FULL STOP;1 MORPHOLOGICAL DIVIDER",
     "GEORGIAN SMALL LETTER AN;3 BAN;3 GAN;3 DON;3 EN;3 VIN;3 ZEN;3 TAN;3 IN;3 KAN;3 LAS;3 MAN",
     "3 NAR;3 ON;3 PAR;3 ZHAR;3 RAE;3 SAN;3 TAR;3 UN;3 PHAR;3 KHAR;3 GHAN;3 QAR;3 SHIN;3 CHIN",
     "3 CAN;3 JIL;3 CIL;3 CHAR;3 XAN;3 JHAN;3 HAE;3 HE;3 HIE;3 WE;3 HAR;3 HOE"]),
   (11559, ["GEORGIAN SMALL LETTER YN"]),
   (11565, ["GEORGIAN SMALL LETTER AEN"]),
   (11568,
    ["TIFINAGH LETTER YA;2 YAB;2 YABH;2 YAG;2 YAGHH;2 BERBER ACADEMY YAJ;2 YAJ;2 YAD;2 YADH",
     "2 YADD;2 YADDH;2 YEY;2 YAF;2 YAK;2 TUAREG YAK;2 YAKHH;2 YAH;2 BERBER ACADEMY YAH",
     "2 TUAREG YAH;2 YAHH;2 YAA;2 YAKH;2 TUAREG YAKH;2 YAQ;2 TUAREG YAQ;2 YI;2 YAZH",
     "2 AHAGGAR YAZH;2 TUAREG YAZH;2 YAL;2 YAM;2 YAN;2 TUAREG YAGN;3 YANG;2 YAP;2 YU;2 YAR",
     "2 YARR;2 YAGH;2 TUAREG YAGH;2 AYER YAGH;2 YAS;2 YASS;2 YASH;2 YAT;2 YATH;2 YACH;2 YATT",
     "2 YAV;2 YAW;2 YAY;2 YAZ;2 TAWELLEMET YAZ;2 YAZZ;2 YE;2 YO"]),
   (11631, ["TIFINAGH MODIFIER LETTER LABIALIZATION MARK;1 SEPARATOR MARK"]),
   (11647,
    ["TIFINAGH CONSONANT JOINER;ETHIOPIC SYLLABLE LOA;2 MOA;2 ROA;2 SOA;2 SHOA;2 BOA;2 TOA",
     "2 COA;2 NOA;2 NYOA;2 GLOTTAL OA;2 ZOA;2 DOA;2 DDOA;2 JOA;2 THOA;2 CHOA;2 PHOA;2 POA",
     "2 GGWA;2 GGWI;2 GGWEE;2 GGWE"]),
   (11680, ["ETHIOPIC SYLLABLE SSA;2 SSU;2 SSI;2 SSAA;2 SSEE;2 SSE;2 SSO"]),
   (11688, ["ETHIOPIC SYLLABLE CCA;2 CCU;2 CCI;2 CCAA;2 CCEE;2 CCE;2 CCO"]),
   (11696, ["ETHIOPIC SYLLABLE ZZA;2 ZZU;2 ZZI;2 ZZAA;2 ZZEE;2 ZZE;2 ZZO"]),
   (11704, ["ETHIOPIC SYLLABLE CCHA;2 CCHU;2 CCHI;2 CCHAA;2 CCHEE;2 CCHE;2 CCHO"]),
   (11712, ["ETHIOPIC SYLLABLE QYA;2 QYU;2 QYI;2 QYAA;2 QYEE;2 QYE;2 QYO"]),
   (11720, ["ETHIOPIC SYLLABLE KYA;2 KYU;2 KYI;2 KYAA;2 KYEE;2 KYE;2 KYO"]),
   (11728, ["ETHIOPIC SYLLABLE XYA;2 XYU;2 XYI;2 XYAA;2 XYEE;2 XYE;2 XYO"]),
   (11736, ["ETHIOPIC SYLLABLE GYA;2 GYU;2 GYI;2 GYAA;2 GYEE;2 GYE;2 GYO"]),
   (11744,
    ["COMBINING CYRILLIC LETTER BE;3 VE;3 GHE;3 DE;3 ZHE;3 ZE;3 KA;3 EL;3 EM;3 EN;3 O;3 PE",
     "3 ER;3 ES;3 TE;3 HA;3 TSE;3 CHE;3 SHA;3 SHCHA;3 FITA;3 ES-TE;3 A;3 IE;3 DJERV",
     "3 MONOGRAPH UK;3 YAT;3 YU;3 IOTIFIED A;3 LITTLE YUS;3 BIG YUS;3 IOTIFIED BIG YUS",
     "RIGHT ANGLE SUBSTITUTION MARKER;2 DOTTED SUBSTITUTION MARKER;LEFT SUBSTITUTION BRACKET",
     "RIGHT SUBSTITUTION BRACKET;LEFT DOTTED SUBSTITUTION BRACKET",
     "RIGHT DOTTED SUBSTITUTION BRACKET;RAISED INTERPOLATION MARKER",
     "1 DOTTED INTERPOLATION MARKER;DOTTED TRANSPOSITION MARKER;LEFT TRANSPOSITION BRACKET",
     "RIGHT TRANSPOSITION BRACKET;RAISED SQUARE;LEFT RAISED OMISSION BRACKET",
     "RIGHT RAISED OMISSION BRACKET;EDITORIAL CORONIS;PARAGRAPHOS;FORKED PARAGRAPHOS",
     "REVERSED FORKED PARAGRAPHOS;HYPODIASTOLE;DOTTED OBELOS;DOWNWARDS ANCORA;UPWARDS ANCORA",
     "DOTTED RIGHT-POINTING ANGLE;DOUBLE OBLIQUE HYPHEN;INVERTED INTERROBANG;PALM BRANCH",
     "HYPHEN WITH DIAERESIS;TILDE WITH RING ABOVE;LEFT LOW PARAPHRASE BRACKET",
     "RIGHT LOW PARAPHRASE BRACKET;TILDE WITH DOT ABOVE;3 BELOW;LEFT VERTICAL BAR WITH QUILL",
     "RIGHT VERTICAL BAR WITH QUILL;TOP LEFT HALF BRACKET;1 RIGHT HALF BRACKET",
     "BOTTOM LEFT HALF BRACKET;1 RIGHT HALF BRACKET;LEFT SIDEWAYS U BRACKET",
     "RIGHT SIDEWAYS U BRACKET;LEFT DOUBLE PARENTHESIS;RIGHT DOUBLE PARENTHESIS",
     "TWO DOTS OVER ONE DOT PUNCTUATION;ONE DOT OVER TWO DOTS PUNCTUATION",
     "SQUARED FOUR DOT PUNCTUATION;FIVE DOT MARK;REVERSED QUESTION MARK;VERTICAL TILDE",
     "RING POINT;WORD SEPARATOR MIDDLE DOT;TURNED COMMA;RAISED DOT;1 COMMA;TURNED SEMICOLON",
     "DAGGER WITH LEFT GUARD;2 RIGHT GUARD;TURNED DAGGER;TOP HALF SECTION SIGN;TWO-EM DASH",
     "THREE-EM DASH;STENOGRAPHIC FULL STOP;VERTICAL SIX DOTS;WIGGLY VERTICAL LINE;CAPITULUM",
     "DOUBLE HYPHEN;REVERSED COMMA;DOUBLE LOW-REVERSED-9 QUOTATION MARK;DASH WITH LEFT UPTURN",
     "DOUBLE SUSPENSION MARK;INVERTED LOW KAVYKA;3 WITH KAVYKA ABOVE;LOW KAVYKA;2 WITH DOT",
     "DOUBLE STACKED COMMA;DOTTED SOLIDUS;TRIPLE DAGGER;MEDIEVAL COMMA;PARAGRAPHUS MARK",
     "PUNCTUS ELEVATUS MARK;CORNISH VERSE DIVIDER;CROSS PATTY WITH RIGHT CROSSBAR",
     "3 LEFT CROSSBAR;TIRONIAN SIGN CAPITAL ET;MEDIEVAL EXCLAMATION MARK;1 QUESTION MARK",
     "LEFT SQUARE BRACKET WITH STROKE;RIGHT SQUARE BRACKET WITH STROKE",
     "LEFT SQUARE BRACKET WITH DOUBLE STROKE;RIGHT SQUARE BRACKET WITH DOUBLE STROKE",
     "TOP HALF LEFT PARENTHESIS;2 RIGHT PARENTHESIS;BOTTOM HALF LEFT PARENTHESIS",
     "2 RIGHT PARENTHESIS;OBLIQUE HYPHEN"]),
   (11904,
    ["CJK RADICAL REPEAT;2 CLIFF;2 SECOND ONE;3 TWO;3 THREE;2 PERSON;2 BOX;2 TABLE;2 KNIFE ONE",
     "3 TWO;2 DIVINATION;2 SEAL;2 SMALL ONE;3 TWO;2 LAME ONE;3 TWO;3 THREE;3 FOUR;2 SNAKE",
     "2 THREAD;2 SNOUT ONE;3 TWO;2 HEART ONE;3 TWO;2 HAND;2 RAP"]),
   (11931,
    ["CJK RADICAL CHOKE;2 SUN;2 MOON;2 DEATH;2 MOTHER;2 CIVILIAN;2 WATER ONE;3 TWO;2 FIRE",
     "2 PAW ONE;3 TWO;2 SIMPLIFIED HALF TREE TRUNK;2 COW;2 DOG;2 JADE;2 BOLT OF CLOTH;2 EYE",
     "2 SPIRIT ONE;3 TWO;2 BAMBOO;2 SILK;2 C-SIMPLIFIED SILK;2 NET ONE;3 TWO;3 THREE;3 FOUR",
     "2 MESH;2 SHEEP;2 RAM;2 EWE;2 OLD;2 BRUSH ONE;3 TWO;2 MEAT;2 MORTAR;2 GRASS ONE;3 TWO",
     "3 THREE;2 TIGER;2 CLOTHES;2 WEST ONE;3 TWO;2 C-SIMPLIFIED SEE;2 SIMPLIFIED HORN;2 HORN",
     "2 C-SIMPLIFIED SPEECH;3 SHELL;2 FOOT;2 C-SIMPLIFIED CART;2 SIMPLIFIED WALK;2 WALK ONE",
     "3 TWO;2 CITY;2 C-SIMPLIFIED GOLD;2 LONG ONE;3 TWO;2 C-SIMPLIFIED LONG;3 GATE;2 MOUND ONE",
     "3 TWO;2 RAIN;2 BLUE;2 C-SIMPLIFIED TANNED LEATHER;3 LEAF;3 WIND;3 FLY;2 EAT ONE;3 TWO",
     "3 THREE;2 C-SIMPLIFIED EAT;2 HEAD;2 C-SIMPLIFIED HORSE;2 BONE;2 GHOST",
     "2 C-SIMPLIFIED FISH;3 BIRD;3 SALT;2 SIMPLIFIED WHEAT;3 YELLOW;2 C-SIMPLIFIED FROG",
     "2 J-SIMPLIFIED EVEN;2 C-SIMPLIFIED EVEN;2 J-SIMPLIFIED TOOTH;2 C-SIMPLIFIED TOOTH",
     "2 J-SIMPLIFIED DRAGON;2 C-SIMPLIFIED DRAGON;2 TURTLE;2 J-SIMPLIFIED TURTLE",
     "2 C-SIMPLIFIED TURTLE"]),
   (12032,
    ["KANGXI RADICAL ONE;2 LINE;2 DOT;2 SLASH;2 SECOND;2 HOOK;2 TWO;2 LID;2 MAN;2 LEGS;2 ENTER",
     "2 EIGHT;2 DOWN BOX;2 COVER;2 ICE;2 TABLE;2 OPEN BOX;2 KNIFE;2 POWER;2 WRAP;2 SPOON",
     "2 RIGHT OPEN BOX;2 HIDING ENCLOSURE;2 TEN;2 DIVINATION;2 SEAL;2 CLIFF;2 PRIVATE;2 AGAIN",
     "2 MOUTH;2 ENCLOSURE;2 EARTH;2 SCHOLAR;2 GO;3 SLOWLY;2 EVENING;2 BIG;2 WOMAN;2 CHILD",
     "2 ROOF;2 INCH;2 SMALL;2 LAME;2 CORPSE;2 SPROUT;2 MOUNTAIN;2 RIVER;2 WORK;2 ONESELF",
     "2 TURBAN;2 DRY;2 SHORT THREAD;2 DOTTED CLIFF;2 LONG STRIDE;2 TWO HANDS;2 SHOOT;2 BOW",
     "2 SNOUT;2 BRISTLE;2 STEP;2 HEART;2 HALBERD;2 DOOR;2 HAND;2 BRANCH;2 RAP;2 SCRIPT",
     "2 DIPPER;2 AXE;2 SQUARE;2 NOT;2 SUN;2 SAY;2 MOON;2 TREE;2 LACK;2 STOP;2 DEATH;2 WEAPON",
     "2 DO NOT;2 COMPARE;2 FUR;2 CLAN;2 STEAM;2 WATER;2 FIRE;2 CLAW;2 FATHER;2 DOUBLE X",
     "2 HALF TREE TRUNK;2 SLICE;2 FANG;2 COW;2 DOG;2 PROFOUND;2 JADE;2 MELON;2 TILE;2 SWEET",
     "2 LIFE;2 USE;2 FIELD;2 BOLT OF CLOTH;2 SICKNESS;2 DOTTED TENT;2 WHITE;2 SKIN;2 DISH",
     "2 EYE;2 SPEAR;2 ARROW;2 STONE;2 SPIRIT;2 TRACK;2 GRAIN;2 CAVE;2 STAND;2 BAMBOO;2 RICE",
     "2 SILK;2 JAR;2 NET;2 SHEEP;2 FEATHER;2 OLD;2 AND;2 PLOW;2 EAR;2 BRUSH;2 MEAT;2 MINISTER",
     "2 SELF;2 ARRIVE;2 MORTAR;2 TONGUE;2 OPPOSE;2 BOAT;2 STOPPING;2 COLOR;2 GRASS;2 TIGER",
     "2 INSECT;2 BLOOD;2 WALK ENCLOSURE;2 CLOTHES;2 WEST;2 SEE;2 HORN;2 SPEECH;2 VALLEY;2 BEAN",
     "2 PIG;2 BADGER;2 SHELL;2 RED;2 RUN;2 FOOT;2 BODY;2 CART;2 BITTER;2 MORNING;2 WALK;2 CITY",
     "2 WINE;2 DISTINGUISH;2 VILLAGE;2 GOLD;2 LONG;2 GATE;2 MOUND;2 SLAVE;2 SHORT TAILED BIRD",
     "2 RAIN;2 BLUE;2 WRONG;2 FACE;2 LEATHER;2 TANNED LEATHER;2 LEEK;2 SOUND;2 LEAF;2 WIND",
     "2 FLY;2 EAT;2 HEAD;2 FRAGRANT;2 HORSE;2 BONE;2 TALL;2 HAIR;2 FIGHT;2 SACRIFICIAL WINE",
     "2 CAULDRON;2 GHOST;2 FISH;2 BIRD;2 SALT;2 DEER;2 WHEAT;2 HEMP;2 YELLOW;2 MILLET;2 BLACK",
     "2 EMBROIDERY;2 FROG;2 TRIPOD;2 DRUM;2 RAT;2 NOSE;2 EVEN;2 TOOTH;2 DRAGON;2 TURTLE",
     "2 FLUTE"]),
   (12272,
    ["IDEOGRAPHIC DESCRIPTION CHARACTER LEFT TO RIGHT;3 ABOVE TO BELOW",
     "3 LEFT TO MIDDLE AND RIGHT;3 ABOVE TO MIDDLE AND BELOW;3 FULL SURROUND",
     "3 SURROUND FROM ABOVE;5 BELOW;5 LEFT;5 UPPER LEFT;6 RIGHT;5 LOWER LEFT;3 OVERLAID"]),
   (12288,
    ["IDEOGRAPHIC SPACE;1 COMMA;1 FULL STOP;DITTO MARK;JAPANESE INDUSTRIAL STANDARD SYMBOL",
     "IDEOGRAPHIC ITERATION MARK;1 CLOSING MARK;1 NUMBER ZERO;LEFT ANGLE BRACKET",
     "RIGHT ANGLE BRACKET;LEFT DOUBLE ANGLE BRACKET;RIGHT DOUBLE ANGLE BRACKET",
     "LEFT CORNER BRACKET;RIGHT CORNER BRACKET;LEFT WHITE CORNER BRACKET",
     "RIGHT WHITE CORNER BRACKET;LEFT BLACK LENTICULAR BRACKET;RIGHT BLACK LENTICULAR BRACKET",
     "POSTAL MARK;GETA MARK;LEFT TORTOISE SHELL BRACKET;RIGHT TORTOISE SHELL BRACKET",
     "LEFT WHITE LENTICULAR BRACKET;RIGHT WHITE LENTICULAR BRACKET",
     "LEFT WHITE TORTOISE SHELL BRACKET;RIGHT WHITE TORTOISE SHELL BRACKET",
     "LEFT WHITE SQUARE BRACKET;RIGHT WHITE SQUARE BRACKET;WAVE DASH",
     "REVERSED DOUBLE PRIME QUOTATION MARK;DOUBLE PRIME QUOTATION MARK",
     "LOW DOUBLE PRIME QUOTATION MARK;POSTAL MARK FACE;HANGZHOU NUMERAL ONE;2 TWO;2 THREE",
     "2 FOUR;2 FIVE;2 SIX;2 SEVEN;2 EIGHT;2 NINE;IDEOGRAPHIC LEVEL TONE MARK",
     "1 RISING TONE MARK;1 DEPARTING TONE MARK;1 ENTERING TONE MARK",
     "HANGUL SINGLE DOT TONE MARK;1 DOUBLE DOT TONE MARK;WAVY DASH;VERTICAL KANA REPEAT MARK",
     "3 WITH VOICED SOUND MARK;3 MARK UPPER HALF;3 WITH VOICED SOUND MARK UPPER HALF",
     "3 MARK LOWER HALF;CIRCLED POSTAL MARK;IDEOGRAPHIC TELEGRAPH LINE FEED SEPARATOR SYMBOL",
     "HANGZHOU NUMERAL TEN;2 TWENTY;2 THIRTY;VERTICAL IDEOGRAPHIC ITERATION MARK;MASU MARK",
     "PART ALTERNATION MARK;IDEOGRAPHIC VARIATION INDICATOR;1 HALF FILL SPACE"]),
   (12353,
    ["HIRAGANA LETTER SMALL A;2 A;2 SMALL I;2 I;2 SMALL U;2 U;2 SMALL E;2 E;2 SMALL O;2 O;2 KA",
     "2 GA;2 KI;2 GI;2 KU;2 GU;2 KE;2 GE;2 KO;2 GO;2 SA;2 ZA;2 SI;2 ZI;2 SU;2 ZU;2 SE;2 ZE",
     "2 SO;2 ZO;2 TA;2 DA;2 TI;2 DI;2 SMALL TU;2 TU;2 DU;2 TE;2 DE;2 TO;2 DO;2 NA;2 NI;2 NU",
     "2 NE;2 NO;2 HA;2 BA;2 PA;2 HI;2 BI;2 PI;2 HU;2 BU;2 PU;2 HE;2 BE;2 PE;2 HO;2 BO;2 PO",
     "2 MA;2 MI;2 MU;2 ME;2 MO;2 SMALL YA;2 YA;2 SMALL YU;2 YU;2 SMALL YO;2 YO;2 RA;2 RI;2 RU",
     "2 RE;2 RO;2 SMALL WA;2 WA;2 WI;2 WE;2 WO;2 N;2 VU;2 SMALL KA;3 KE"]),
   (12441,
    ["COMBINING KATAKANA-HIRAGANA VOICED SOUND MARK;2 SEMI-VOICED SOUND MARK",
     "KATAKANA-HIRAGANA VOICED SOUND MARK;1 SEMI-VOICED SOUND MARK;HIRAGANA ITERATION MARK",
     "1 VOICED ITERATION MARK;1 DIGRAPH YORI;KATAKANA-HIRAGANA DOUBLE HYPHEN",
     "KATAKANA LETTER SMALL A;2 A;2 SMALL I;2 I;2 SMALL U;2 U;2 SMALL E;2 E;2 SMALL O;2 O;2 KA",
     "2 GA;2 KI;2 GI;2 KU;2 GU;2 KE;2 GE;2 KO;2 GO;2 SA;2 ZA;2 SI;2 ZI;2 SU;2 ZU;2 SE;2 ZE",
     "2 SO;2 ZO;2 TA;2 DA;2 TI;2 DI;2 SMALL TU;2 TU;2 DU;2 TE;2 DE;2 TO;2 DO;2 NA;2 NI;2 NU",
     "2 NE;2 NO;2 HA;2 BA;2 PA;2 HI;2 BI;2 PI;2 HU;2 BU;2 PU;2 HE;2 BE;2 PE;2 HO;2 BO;2 PO",
     "2 MA;2 MI;2 MU;2 ME;2 MO;2 SMALL YA;2 YA;2 SMALL YU;2 YU;2 SMALL YO;2 YO;2 RA;2 RI;2 RU",
     "2 RE;2 RO;2 SMALL WA;2 WA;2 WI;2 WE;2 WO;2 N;2 VU;2 SMALL KA;3 KE;2 VA;2 VI;2 VE;2 VO",
     "1 MIDDLE DOT;KATAKANA-HIRAGANA PROLONGED SOUND MARK;KATAKANA ITERATION MARK",
     "1 VOICED ITERATION MARK;1 DIGRAPH KOTO"]),
   (12549,
    ["BOPOMOFO LETTER B;2 P;2 M;2 F;2 D;2 T;2 N;2 L;2 G;2 K;2 H;2 J;2 Q;2 X;2 ZH;2 CH;2 SH;2 R",
     "2 Z;2 C;2 S;2 A;2 O;2 E;2 EH;2 AI;2 EI;2 AU;2 OU;2 AN;2 EN;2 ANG;2 ENG;2 ER;2 I;2 U;2 IU",
     "2 V;2 NG;2 GN;2 IH;2 O WITH DOT ABOVE;2 NN"]),
   (12593,
    ["HANGUL LETTER KIYEOK;2 SSANGKIYEOK;2 KIYEOK-SIOS;2 NIEUN;2 NIEUN-CIEUC;2 NIEUN-HIEUH",
     "2 TIKEUT;2 SSANGTIKEUT;2 RIEUL;2 RIEUL-KIYEOK;2 RIEUL-MIEUM;2 RIEUL-PIEUP;2 RIEUL-SIOS",
     "2 RIEUL-THIEUTH;2 RIEUL-PHIEUPH;2 RIEUL-HIEUH;2 MIEUM;2 PIEUP;2 SSANGPIEUP;2 PIEUP-SIOS",
     "2 SIOS;2 SSANGSIOS;2 IEUNG;2 CIEUC;2 SSANGCIEUC;2 CHIEUCH;2 KHIEUKH;2 THIEUTH;2 PHIEUPH",
     "2 HIEUH;2 A;2 AE;2 YA;2 YAE;2 EO;2 E;2 YEO;2 YE;2 O;2 WA;2 WAE;2 OE;2 YO;2 U;2 WEO;2 WE",
     "2 WI;2 YU;2 EU;2 YI;2 I;1 FILLER;1 LETTER SSANGNIEUN;2 NIEUN-TIKEUT;2 NIEUN-SIOS",
     "2 NIEUN-PANSIOS;2 RIEUL-KIYEOK-SIOS;2 RIEUL-TIKEUT;2 RIEUL-PIEUP-SIOS;2 RIEUL-PANSIOS",
     "2 RIEUL-YEORINHIEUH;2 MIEUM-PIEUP;2 MIEUM-SIOS;2 MIEUM-PANSIOS;2 KAPYEOUNMIEUM",
     "2 PIEUP-KIYEOK;2 PIEUP-TIKEUT;2 PIEUP-SIOS-KIYEOK;2 PIEUP-SIOS-TIKEUT;2 PIEUP-CIEUC",
     "2 PIEUP-THIEUTH;2 KAPYEOUNPIEUP;2 KAPYEOUNSSANGPIEUP;2 SIOS-KIYEOK;2 SIOS-NIEUN",
     "2 SIOS-TIKEUT;2 SIOS-PIEUP;2 SIOS-CIEUC;2 PANSIOS;2 SSANGIEUNG;2 YESIEUNG",
     "2 YESIEUNG-SIOS;2 YESIEUNG-PANSIOS;2 KAPYEOUNPHIEUPH;2 SSANGHIEUH;2 YEORINHIEUH;2 YO-YA",
     "2 YO-YAE;2 YO-I;2 YU-YEO;2 YU-YE;2 YU-I;2 ARAEA;2 ARAEAE"]),
   (12688,
    ["IDEOGRAPHIC ANNOTATION LINKING MARK;2 REVERSE MARK;2 ONE MARK;2 TWO MARK;2 THREE MARK",
     "2 FOUR MARK;2 TOP MARK;2 MIDDLE MARK;2 BOTTOM MARK;2 FIRST MARK;2 SECOND MARK",
     "2 THIRD MARK;2 FOURTH MARK;2 HEAVEN MARK;2 EARTH MARK;2 MAN MARK;BOPOMOFO LETTER BU;2 ZI",
     "2 JI;2 GU;2 EE;2 ENN;2 OO;2 ONN;2 IR;2 ANN;2 INN;2 UNN;2 IM;2 NGG;2 AINN;2 AUNN;2 AM",
     "2 OM;2 ONG;2 INNN;1 FINAL LETTER P;3 T;3 K;3 H;1 LETTER GH;2 LH;2 ZY;1 FINAL LETTER G",
     "1 LETTER GW;2 KW;2 OE;2 AH;CJK STROKE T;2 WG;2 XG;2 BXG;2 SW;2 HZZ;2 HZG;2 HP;2 HZWG",
     "2 SZWG;2 HZT;2 HZZP;2 HPWG;2 HZW;2 HZZZ;2 N;2 H;2 S;2 P;2 SP;2 D;2 HZ;2 HG;2 SZ;2 SWZ",
     "2 ST;2 SG;2 PD;2 PZ;2 TN;2 SZZ;2 SWG;2 HXWG;2 HZZZG;2 PG;2 Q"]),
   (12784,
    ["KATAKANA LETTER SMALL KU;3 SI;3 SU;3 TO;3 NU;3 HA;3 HI;3 HU;3 HE;3 HO;3 MU;3 RA;3 RI",
     "3 RU;3 RE;3 RO;PARENTHESIZED HANGUL KIYEOK;2 NIEUN;2 TIKEUT;2 RIEUL;2 MIEUM;2 PIEUP",
     "2 SIOS;2 IEUNG;2 CIEUC;2 CHIEUCH;2 KHIEUKH;2 THIEUTH;2 PHIEUPH;2 HIEUH;2 KIYEOK A",
     "2 NIEUN A;2 TIKEUT A;2 RIEUL A;2 MIEUM A;2 PIEUP A;2 SIOS A;2 IEUNG A;2 CIEUC A",
     "2 CHIEUCH A;2 KHIEUKH A;2 THIEUTH A;2 PHIEUPH A;2 HIEUH A;2 CIEUC U",
     "1 KOREAN CHARACTER OJEON;3 O HU"]),
   (12832,
    ["PARENTHESIZED IDEOGRAPH ONE;2 TWO;2 THREE;2 FOUR;2 FIVE;2 SIX;2 SEVEN;2 EIGHT;2 NINE",
     "2 TEN;2 MOON;2 FIRE;2 WATER;2 WOOD;2 METAL;2 EARTH;2 SUN;2 STOCK;2 HAVE;2 SOCIETY;2 NAME",
     "2 SPECIAL;2 FINANCIAL;2 CONGRATULATION;2 LABOR;2 REPRESENT;2 CALL;2 STUDY;2 SUPERVISE",
     "2 ENTERPRISE;2 RESOURCE;2 ALLIANCE;2 FESTIVAL;2 REST;2 SELF;2 REACH",
     "CIRCLED IDEOGRAPH QUESTION;2 KINDERGARTEN;2 SCHOOL;2 KOTO;1 NUMBER TEN ON BLACK SQUARE",
     "2 TWENTY ON BLACK SQUARE;2 THIRTY ON BLACK SQUARE;2 FORTY ON BLACK SQUARE",
     "2 FIFTY ON BLACK SQUARE;2 SIXTY ON BLACK SQUARE;2 SEVENTY ON BLACK SQUARE",
     "2 EIGHTY ON BLACK SQUARE;PARTNERSHIP SIGN;CIRCLED NUMBER TWENTY ONE;3 TWO;3 THREE;3 FOUR",
     "3 FIVE;3 SIX;3 SEVEN;3 EIGHT;3 NINE;2 THIRTY;3 ONE;3 TWO;3 THREE;3 FOUR;3 FIVE",
     "1 HANGUL KIYEOK;2 NIEUN;2 TIKEUT;2 RIEUL;2 MIEUM;2 PIEUP;2 SIOS;2 IEUNG;2 CIEUC",
     "2 CHIEUCH;2 KHIEUKH;2 THIEUTH;2 PHIEUPH;2 HIEUH;2 KIYEOK A;2 NIEUN A;2 TIKEUT A",
     "2 RIEUL A;2 MIEUM A;2 PIEUP A;2 SIOS A;2 IEUNG A;2 CIEUC A;2 CHIEUCH A;2 KHIEUKH A",
     "2 THIEUTH A;2 PHIEUPH A;2 HIEUH A;1 KOREAN CHARACTER CHAMKO;3 JUEUI;1 HANGUL IEUNG U",
     "KOREAN STANDARD SYMBOL;CIRCLED IDEOGRAPH ONE;2 TWO;2 THREE;2 FOUR;2 FIVE;2 SIX;2 SEVEN",
     "2 EIGHT;2 NINE;2 TEN;2 MOON;2 FIRE;2 WATER;2 WOOD;2 METAL;2 EARTH;2 SUN;2 STOCK;2 HAVE",
     "2 SOCIETY;2 NAME;2 SPECIAL;2 FINANCIAL;2 CONGRATULATION;2 LABOR;2 SECRET;2 MALE;2 FEMALE",
     "2 SUITABLE;2 EXCELLENT;2 PRINT;2 ATTENTION;2 ITEM;2 REST;2 COPY;2 CORRECT;2 HIGH",
     "2 CENTRE;2 LOW;2 LEFT;2 RIGHT;2 MEDICINE;2 RELIGION;2 STUDY;2 SUPERVISE;2 ENTERPRISE",
     "2 RESOURCE;2 ALLIANCE;2 NIGHT;1 NUMBER THIRTY SIX;3 SEVEN;3 EIGHT;3 NINE;2 FORTY;3 ONE",
     "3 TWO;3 THREE;3 FOUR;3 FIVE;3 SIX;3 SEVEN;3 EIGHT;3 NINE;2 FIFTY",
     "IDEOGRAPHIC TELEGRAPH SYMBOL FOR JANUARY;4 FEBRUARY;4 MARCH;4 APRIL;4 MAY;4 JUNE;4 JULY",
     "4 AUGUST;4 SEPTEMBER;4 OCTOBER;4 NOVEMBER;4 DECEMBER;SQUARE HG;1 ERG;1 EV",
     "LIMITED LIABILITY SIGN;CIRCLED KATAKANA A;2 I;2 U;2 E;2 O;2 KA;2 KI;2 KU;2 KE;2 KO;2 SA",
     "2 SI;2 SU;2 SE;2 SO;2 TA;2 TI;2 TU;2 TE;2 TO;2 NA;2 NI;2 NU;2 NE;2 NO;2 HA;2 HI;2 HU",
     "2 HE;2 HO;2 MA;2 MI;2 MU;2 ME;2 MO;2 YA;2 YU;2 YO;2 RA;2 RI;2 RU;2 RE;2 RO;2 WA;2 WI",
     "2 WE;2 WO;SQUARE ERA NAME REIWA;1 APAATO;1 ARUHUA;1 ANPEA;1 AARU;1 ININGU;1 INTI;1 UON",
     "1 ESUKUUDO;1 EEKAA;1 ONSU;1 OOMU;1 KAIRI;1 KARATTO;1 KARORII;1 GARON;1 GANMA;1 GIGA",
     "1 GINII;1 KYURII;1 GIRUDAA;1 KIRO;1 KIROGURAMU;1 KIROMEETORU;1 KIROWATTO;1 GURAMU",
     "1 GURAMUTON;1 KURUZEIRO;1 KUROONE;1 KEESU;1 KORUNA;1 KOOPO;1 SAIKURU;1 SANTIIMU",
     "1 SIRINGU;1 SENTI;1 SENTO;1 DAASU;1 DESI;1 DORU;1 TON;1 NANO;1 NOTTO;1 HAITU;1 PAASENTO",
     "1 PAATU;1 BAARERU;1 PIASUTORU;1 PIKURU;1 PIKO;1 BIRU;1 HUARADDO;1 HUIITO;1 BUSSYERU",
     "1 HURAN;1 HEKUTAARU;1 PESO;1 PENIHI;1 HERUTU;1 PENSU;1 PEEZI;1 BEETA;1 POINTO;1 BORUTO",
     "1 HON;1 PONDO;1 HOORU;1 HOON;1 MAIKURO;1 MAIRU;1 MAHHA;1 MARUKU;1 MANSYON;1 MIKURON",
     "1 MIRI;1 MIRIBAARU;1 MEGA;1 MEGATON;1 MEETORU;1 YAADO;1 YAARU;1 YUAN;1 RITTORU;1 RIRA",
     "1 RUPII;1 RUUBURU;1 REMU;1 RENTOGEN;1 WATTO;IDEOGRAPHIC TELEGRAPH SYMBOL FOR HOUR ZERO",
     "5 ONE;5 TWO;5 THREE;5 FOUR;5 FIVE;5 SIX;5 SEVEN;5 EIGHT;5 NINE;5 TEN;5 ELEVEN;5 TWELVE",
     "5 THIRTEEN;5 FOURTEEN;5 FIFTEEN;5 SIXTEEN;5 SEVENTEEN;5 EIGHTEEN;5 NINETEEN;5 TWENTY",
     "5 TWENTY-ONE;5 TWENTY-TWO;5 TWENTY-THREE;5 TWENTY-FOUR;SQUARE HPA;1 DA;1 AU;1 BAR;1 OV",
     "1 PC;1 DM;2 SQUARED;2 CUBED;1 IU;1 ERA NAME HEISEI;3 SYOUWA;3 TAISYOU;3 MEIZI",
     "1 CORPORATION;1 PA AMPS;1 NA;1 MU A;1 MA;1 KA;1 KB;1 MB;1 GB;1 CAL;1 KCAL;1 PF;1 NF",
     "1 MU F;2 G;1 MG;1 KG;1 HZ;1 KHZ;1 MHZ;1 GHZ;1 THZ;1 MU L;1 ML;1 DL;1 KL;1 FM;1 NM;1 MU M",
     "1 MM;1 CM;1 KM;1 MM SQUARED;1 CM SQUARED;1 M SQUARED;1 KM SQUARED;1 MM CUBED;1 CM CUBED",
     "1 M CUBED;1 KM CUBED;1 M OVER S;4 SQUARED;1 PA;1 KPA;1 MPA;1 GPA;1 RAD;2 OVER S",
     "4 SQUARED;1 PS;1 NS;1 MU S;1 MS;1 PV;1 NV;1 MU V;1 MV;1 KV;1 MV MEGA;1 PW;1 NW;1 MU W",
     "1 MW;1 KW;1 MW MEGA;1 K OHM;1 M OHM;1 AM;1 BQ;1 CC;1 CD;1 C OVER KG;1 CO;1 DB;1 GY;1 HA",
     "1 HP;1 IN;1 KK;1 KM CAPITAL;1 KT;1 LM;1 LN;1 LOG;1 LX;1 MB SMALL;1 MIL;1 MOL;1 PH;1 PM",
     "1 PPM;1 PR;1 SR;1 SV;1 WB;1 V OVER M;1 A OVER M;IDEOGRAPHIC TELEGRAPH SYMBOL FOR DAY ONE",
     "5 TWO;5 THREE;5 FOUR;5 FIVE;5 SIX;5 SEVEN;5 EIGHT;5 NINE;5 TEN;5 ELEVEN;5 TWELVE",
     "5 THIRTEEN;5 FOURTEEN;5 FIFTEEN;5 SIXTEEN;5 SEVENTEEN;5 EIGHTEEN;5 NINETEEN;5 TWENTY",
     "5 TWENTY-ONE;5 TWENTY-TWO;5 TWENTY-THREE;5 TWENTY-FOUR;5 TWENTY-FIVE;5 TWENTY-SIX",
     "5 TWENTY-SEVEN;5 TWENTY-EIGHT;5 TWENTY-NINE;5 THIRTY;5 THIRTY-ONE;SQUARE GAL"]),
   (19904,
    ["HEXAGRAM FOR THE CREATIVE HEAVEN;3 RECEPTIVE EARTH;2 DIFFICULTY AT THE BEGINNING",
     "2 YOUTHFUL FOLLY;2 WAITING;2 CONFLICT;2 THE ARMY;2 HOLDING TOGETHER;2 SMALL TAMING",
     "2 TREADING;2 PEACE;2 STANDSTILL;2 FELLOWSHIP;2 GREAT POSSESSION;2 MODESTY;2 ENTHUSIASM",
     "2 FOLLOWING;2 WORK ON THE DECAYED;2 APPROACH;2 CONTEMPLATION;2 BITING THROUGH;2 GRACE",
     "2 SPLITTING APART;2 RETURN;2 INNOCENCE;2 GREAT TAMING;2 MOUTH CORNERS",
     "2 GREAT PREPONDERANCE;2 THE ABYSMAL WATER;3 CLINGING FIRE;2 INFLUENCE;2 DURATION",
     "2 RETREAT;2 GREAT POWER;2 PROGRESS;2 DARKENING OF THE LIGHT;2 THE FAMILY;2 OPPOSITION",
     "2 OBSTRUCTION;2 DELIVERANCE;2 DECREASE;2 INCREASE;2 BREAKTHROUGH;2 COMING TO MEET",
     "2 GATHERING TOGETHER;2 PUSHING UPWARD;2 OPPRESSION;2 THE WELL;2 REVOLUTION",
     "2 THE CAULDRON;3 AROUSING THUNDER;3 KEEPING STILL MOUNTAIN;2 DEVELOPMENT",
     "2 THE MARRYING MAIDEN;2 ABUNDANCE;2 THE WANDERER;3 GENTLE WIND;3 JOYOUS LAKE",
     "2 DISPERSION;2 LIMITATION;2 INNER TRUTH;2 SMALL PREPONDERANCE;2 AFTER COMPLETION",
     "2 BEFORE COMPLETION"]),
   (40960,
    ["YI SYLLABLE IT;2 IX;2 I;2 IP;2 IET;2 IEX;2 IE;2 IEP;2 AT;2 AX;2 A;2 AP;2 UOX;2 UO;2 UOP",
     "2 OT;2 OX;2 O;2 OP;2 EX;2 E;2 WU;2 BIT;2 BIX;2 BI;2 BIP;2 BIET;2 BIEX;2 BIE;2 BIEP;2 BAT",
     "2 BAX;2 BA;2 BAP;2 BUOX;2 BUO;2 BUOP;2 BOT;2 BOX;2 BO;2 BOP;2 BEX;2 BE;2 BEP;2 BUT;2 BUX",
     "2 BU;2 BUP;2 BURX;2 BUR;2 BYT;2 BYX;2 BY;2 BYP;2 BYRX;2 BYR;2 PIT;2 PIX;2 PI;2 PIP",
     "2 PIEX;2 PIE;2 PIEP;2 PAT;2 PAX;2 PA;2 PAP;2 PUOX;2 PUO;2 PUOP;2 POT;2 POX;2 PO;2 POP",
     "2 PUT;2 PUX;2 PU;2 PUP;2 PURX;2 PUR;2 PYT;2 PYX;2 PY;2 PYP;2 PYRX;2 PYR;2 BBIT;2 BBIX",
     "2 BBI;2 BBIP;2 BBIET;2 BBIEX;2 BBIE;2 BBIEP;2 BBAT;2 BBAX;2 BBA;2 BBAP;2 BBUOX;2 BBUO",
     "2 BBUOP;2 BBOT;2 BBOX;2 BBO;2 BBOP;2 BBEX;2 BBE;2 BBEP;2 BBUT;2 BBUX;2 BBU;2 BBUP",
     "2 BBURX;2 BBUR;2 BBYT;2 BBYX;2 BBY;2 BBYP;2 NBIT;2 NBIX;2 NBI;2 NBIP;2 NBIEX;2 NBIE",
     "2 NBIEP;2 NBAT;2 NBAX;2 NBA;2 NBAP;2 NBOT;2 NBOX;2 NBO;2 NBOP;2 NBUT;2 NBUX;2 NBU;2 NBUP",
     "2 NBURX;2 NBUR;2 NBYT;2 NBYX;2 NBY;2 NBYP;2 NBYRX;2 NBYR;2 HMIT;2 HMIX;2 HMI;2 HMIP",
     "2 HMIEX;2 HMIE;2 HMIEP;2 HMAT;2 HMAX;2 HMA;2 HMAP;2 HMUOX;2 HMUO;2 HMUOP;2 HMOT;2 HMOX",
     "2 HMO;2 HMOP;2 HMUT;2 HMUX;2 HMU;2 HMUP;2 HMURX;2 HMUR;2 HMYX;2 HMY;2 HMYP;2 HMYRX",
     "2 HMYR;2 MIT;2 MIX;2 MI;2 MIP;2 MIEX;2 MIE;2 MIEP;2 MAT;2 MAX;2 MA;2 MAP;2 MUOT;2 MUOX",
     "2 MUO;2 MUOP;2 MOT;2 MOX;2 MO;2 MOP;2 MEX;2 ME;2 MUT;2 MUX;2 MU;2 MUP;2 MURX;2 MUR;2 MYT",
     "2 MYX;2 MY;2 MYP;2 FIT;2 FIX;2 FI;2 FIP;2 FAT;2 FAX;2 FA;2 FAP;2 FOX;2 FO;2 FOP;2 FUT",
     "2 FUX;2 FU;2 FUP;2 FURX;2 FUR;2 FYT;2 FYX;2 FY;2 FYP;2 VIT;2 VIX;2 VI;2 VIP;2 VIET",
     "2 VIEX;2 VIE;2 VIEP;2 VAT;2 VAX;2 VA;2 VAP;2 VOT;2 VOX;2 VO;2 VOP;2 VEX;2 VEP;2 VUT",
     "2 VUX;2 VU;2 VUP;2 VURX;2 VUR;2 VYT;2 VYX;2 VY;2 VYP;2 VYRX;2 VYR;2 DIT;2 DIX;2 DI;2 DIP",
     "2 DIEX;2 DIE;2 DIEP;2 DAT;2 DAX;2 DA;2 DAP;2 DUOX;2 DUO;2 DOT;2 DOX;2 DO;2 DOP;2 DEX",
     "2 DE;2 DEP;2 DUT;2 DUX;2 DU;2 DUP;2 DURX;2 DUR;2 TIT;2 TIX;2 TI;2 TIP;2 TIEX;2 TIE",
     "2 TIEP;2 TAT;2 TAX;2 TA;2 TAP;2 TUOT;2 TUOX;2 TUO;2 TUOP;2 TOT;2 TOX;2 TO;2 TOP;2 TEX",
     "2 TE;2 TEP;2 TUT;2 TUX;2 TU;2 TUP;2 TURX;2 TUR;2 DDIT;2 DDIX;2 DDI;2 DDIP;2 DDIEX;2 DDIE",
     "2 DDIEP;2 DDAT;2 DDAX;2 DDA;2 DDAP;2 DDUOX;2 DDUO;2 DDUOP;2 DDOT;2 DDOX;2 DDO;2 DDOP",
     "2 DDEX;2 DDE;2 DDEP;2 DDUT;2 DDUX;2 DDU;2 DDUP;2 DDURX;2 DDUR;2 NDIT;2 NDIX;2 NDI;2 NDIP",
     "2 NDIEX;2 NDIE;2 NDAT;2 NDAX;2 NDA;2 NDAP;2 NDOT;2 NDOX;2 NDO;2 NDOP;2 NDEX;2 NDE;2 NDEP",
     "2 NDUT;2 NDUX;2 NDU;2 NDUP;2 NDURX;2 NDUR;2 HNIT;2 HNIX;2 HNI;2 HNIP;2 HNIET;2 HNIEX",
     "2 HNIE;2 HNIEP;2 HNAT;2 HNAX;2 HNA;2 HNAP;2 HNUOX;2 HNUO;2 HNOT;2 HNOX;2 HNOP;2 HNEX",
     "2 HNE;2 HNEP;2 HNUT;2 NIT;2 NIX;2 NI;2 NIP;2 NIEX;2 NIE;2 NIEP;2 NAX;2 NA;2 NAP;2 NUOX",
     "2 NUO;2 NUOP;2 NOT;2 NOX;2 NO;2 NOP;2 NEX;2 NE;2 NEP;2 NUT;2 NUX;2 NU;2 NUP;2 NURX;2 NUR",
     "2 HLIT;2 HLIX;2 HLI;2 HLIP;2 HLIEX;2 HLIE;2 HLIEP;2 HLAT;2 HLAX;2 HLA;2 HLAP;2 HLUOX",
     "2 HLUO;2 HLUOP;2 HLOX;2 HLO;2 HLOP;2 HLEX;2 HLE;2 HLEP;2 HLUT;2 HLUX;2 HLU;2 HLUP",
     "2 HLURX;2 HLUR;2 HLYT;2 HLYX;2 HLY;2 HLYP;2 HLYRX;2 HLYR;2 LIT;2 LIX;2 LI;2 LIP;2 LIET",
     "2 LIEX;2 LIE;2 LIEP;2 LAT;2 LAX;2 LA;2 LAP;2 LUOT;2 LUOX;2 LUO;2 LUOP;2 LOT;2 LOX;2 LO",
     "2 LOP;2 LEX;2 LE;2 LEP;2 LUT;2 LUX;2 LU;2 LUP;2 LURX;2 LUR;2 LYT;2 LYX;2 LY;2 LYP;2 LYRX",
     "2 LYR;2 GIT;2 GIX;2 GI;2 GIP;2 GIET;2 GIEX;2 GIE;2 GIEP;2 GAT;2 GAX;2 GA;2 GAP;2 GUOT",
     "2 GUOX;2 GUO;2 GUOP;2 GOT;2 GOX;2 GO;2 GOP;2 GET;2 GEX;2 GE;2 GEP;2 GUT;2 GUX;2 GU;2 GUP",
     "2 GURX;2 GUR;2 KIT;2 KIX;2 KI;2 KIP;2 KIEX;2 KIE;2 KIEP;2 KAT;2 KAX;2 KA;2 KAP;2 KUOX",
     "2 KUO;2 KUOP;2 KOT;2 KOX;2 KO;2 KOP;2 KET;2 KEX;2 KE;2 KEP;2 KUT;2 KUX;2 KU;2 KUP;2 KURX",
     "2 KUR;2 GGIT;2 GGIX;2 GGI;2 GGIEX;2 GGIE;2 GGIEP;2 GGAT;2 GGAX;2 GGA;2 GGAP;2 GGUOT",
     "2 GGUOX;2 GGUO;2 GGUOP;2 GGOT;2 GGOX;2 GGO;2 GGOP;2 GGET;2 GGEX;2 GGE;2 GGEP;2 GGUT",
     "2 GGUX;2 GGU;2 GGUP;2 GGURX;2 GGUR;2 MGIEX;2 MGIE;2 MGAT;2 MGAX;2 MGA;2 MGAP;2 MGUOX",
     "2 MGUO;2 MGUOP;2 MGOT;2 MGOX;2 MGO;2 MGOP;2 MGEX;2 MGE;2 MGEP;2 MGUT;2 MGUX;2 MGU;2 MGUP",
     "2 MGURX;2 MGUR;2 HXIT;2 HXIX;2 HXI;2 HXIP;2 HXIET;2 HXIEX;2 HXIE;2 HXIEP;2 HXAT;2 HXAX",
     "2 HXA;2 HXAP;2 HXUOT;2 HXUOX;2 HXUO;2 HXUOP;2 HXOT;2 HXOX;2 HXO;2 HXOP;2 HXEX;2 HXE",
     "2 HXEP;2 NGIEX;2 NGIE;2 NGIEP;2 NGAT;2 NGAX;2 NGA;2 NGAP;2 NGUOT;2 NGUOX;2 NGUO;2 NGOT",
     "2 NGOX;2 NGO;2 NGOP;2 NGEX;2 NGE;2 NGEP;2 HIT;2 HIEX;2 HIE;2 HAT;2 HAX;2 HA;2 HAP;2 HUOT",
     "2 HUOX;2 HUO;2 HUOP;2 HOT;2 HOX;2 HO;2 HOP;2 HEX;2 HE;2 HEP;2 WAT;2 WAX;2 WA;2 WAP",
     "2 WUOX;2 WUO;2 WUOP;2 WOX;2 WO;2 WOP;2 WEX;2 WE;2 WEP;2 ZIT;2 ZIX;2 ZI;2 ZIP;2 ZIEX",
     "2 ZIE;2 ZIEP;2 ZAT;2 ZAX;2 ZA;2 ZAP;2 ZUOX;2 ZUO;2 ZUOP;2 ZOT;2 ZOX;2 ZO;2 ZOP;2 ZEX",
     "2 ZE;2 ZEP;2 ZUT;2 ZUX;2 ZU;2 ZUP;2 ZURX;2 ZUR;2 ZYT;2 ZYX;2 ZY;2 ZYP;2 ZYRX;2 ZYR;2 CIT",
     "2 CIX;2 CI;2 CIP;2 CIET;2 CIEX;2 CIE;2 CIEP;2 CAT;2 CAX;2 CA;2 CAP;2 CUOX;2 CUO;2 CUOP",
     "2 COT;2 COX;2 CO;2 COP;2 CEX;2 CE;2 CEP;2 CUT;2 CUX;2 CU;2 CUP;2 CURX;2 CUR;2 CYT;2 CYX",
     "2 CY;2 CYP;2 CYRX;2 CYR;2 ZZIT;2 ZZIX;2 ZZI;2 ZZIP;2 ZZIET;2 ZZIEX;2 ZZIE;2 ZZIEP;2 ZZAT",
     "2 ZZAX;2 ZZA;2 ZZAP;2 ZZOX;2 ZZO;2 ZZOP;2 ZZEX;2 ZZE;2 ZZEP;2 ZZUX;2 ZZU;2 ZZUP;2 ZZURX",
     "2 ZZUR;2 ZZYT;2 ZZYX;2 ZZY;2 ZZYP;2 ZZYRX;2 ZZYR;2 NZIT;2 NZIX;2 NZI;2 NZIP;2 NZIEX",
     "2 NZIE;2 NZIEP;2 NZAT;2 NZAX;2 NZA;2 NZAP;2 NZUOX;2 NZUO;2 NZOX;2 NZOP;2 NZEX;2 NZE",
     "2 NZUX;2 NZU;2 NZUP;2 NZURX;2 NZUR;2 NZYT;2 NZYX;2 NZY;2 NZYP;2 NZYRX;2 NZYR;2 SIT;2 SIX",
     "2 SI;2 SIP;2 SIEX;2 SIE;2 SIEP;2 SAT;2 SAX;2 SA;2 SAP;2 SUOX;2 SUO;2 SUOP;2 SOT;2 SOX",
     "2 SO;2 SOP;2 SEX;2 SE;2 SEP;2 SUT;2 SUX;2 SU;2 SUP;2 SURX;2 SUR;2 SYT;2 SYX;2 SY;2 SYP",
     "2 SYRX;2 SYR;2 SSIT;2 SSIX;2 SSI;2 SSIP;2 SSIEX;2 SSIE;2 SSIEP;2 SSAT;2 SSAX;2 SSA",
     "2 SSAP;2 SSOT;2 SSOX;2 SSO;2 SSOP;2 SSEX;2 SSE;2 SSEP;2 SSUT;2 SSUX;2 SSU;2 SSUP;2 SSYT",
     "2 SSYX;2 SSY;2 SSYP;2 SSYRX;2 SSYR;2 ZHAT;2 ZHAX;2 ZHA;2 ZHAP;2 ZHUOX;2 ZHUO;2 ZHUOP",
     "2 ZHOT;2 ZHOX;2 ZHO;2 ZHOP;2 ZHET;2 ZHEX;2 ZHE;2 ZHEP;2 ZHUT;2 ZHUX;2 ZHU;2 ZHUP;2 ZHURX",
     "2 ZHUR;2 ZHYT;2 ZHYX;2 ZHY;2 ZHYP;2 ZHYRX;2 ZHYR;2 CHAT;2 CHAX;2 CHA;2 CHAP;2 CHUOT",
     "2 CHUOX;2 CHUO;2 CHUOP;2 CHOT;2 CHOX;2 CHO;2 CHOP;2 CHET;2 CHEX;2 CHE;2 CHEP;2 CHUX",
     "2 CHU;2 CHUP;2 CHURX;2 CHUR;2 CHYT;2 CHYX;2 CHY;2 CHYP;2 CHYRX;2 CHYR;2 RRAX;2 RRA",
     "2 RRUOX;2 RRUO;2 RROT;2 RROX;2 RRO;2 RROP;2 RRET;2 RREX;2 RRE;2 RREP;2 RRUT;2 RRUX;2 RRU",
     "2 RRUP;2 RRURX;2 RRUR;2 RRYT;2 RRYX;2 RRY;2 RRYP;2 RRYRX;2 RRYR;2 NRAT;2 NRAX;2 NRA",
     "2 NRAP;2 NROX;2 NRO;2 NROP;2 NRET;2 NREX;2 NRE;2 NREP;2 NRUT;2 NRUX;2 NRU;2 NRUP;2 NRURX",
     "2 NRUR;2 NRYT;2 NRYX;2 NRY;2 NRYP;2 NRYRX;2 NRYR;2 SHAT;2 SHAX;2 SHA;2 SHAP;2 SHUOX",
     "2 SHUO;2 SHUOP;2 SHOT;2 SHOX;2 SHO;2 SHOP;2 SHET;2 SHEX;2 SHE;2 SHEP;2 SHUT;2 SHUX;2 SHU",
     "2 SHUP;2 SHURX;2 SHUR;2 SHYT;2 SHYX;2 SHY;2 SHYP;2 SHYRX;2 SHYR;2 RAT;2 RAX;2 RA;2 RAP",
     "2 RUOX;2 RUO;2 RUOP;2 ROT;2 ROX;2 RO;2 ROP;2 REX;2 RE;2 REP;2 RUT;2 RUX;2 RU;2 RUP",
     "2 RURX;2 RUR;2 RYT;2 RYX;2 RY;2 RYP;2 RYRX;2 RYR;2 JIT;2 JIX;2 JI;2 JIP;2 JIET;2 JIEX",
     "2 JIE;2 JIEP;2 JUOT;2 JUOX;2 JUO;2 JUOP;2 JOT;2 JOX;2 JO;2 JOP;2 JUT;2 JUX;2 JU;2 JUP",
     "2 JURX;2 JUR;2 JYT;2 JYX;2 JY;2 JYP;2 JYRX;2 JYR;2 QIT;2 QIX;2 QI;2 QIP;2 QIET;2 QIEX",
     "2 QIE;2 QIEP;2 QUOT;2 QUOX;2 QUO;2 QUOP;2 QOT;2 QOX;2 QO;2 QOP;2 QUT;2 QUX;2 QU;2 QUP",
     "2 QURX;2 QUR;2 QYT;2 QYX;2 QY;2 QYP;2 QYRX;2 QYR;2 JJIT;2 JJIX;2 JJI;2 JJIP;2 JJIET",
     "2 JJIEX;2 JJIE;2 JJIEP;2 JJUOX;2 JJUO;2 JJUOP;2 JJOT;2 JJOX;2 JJO;2 JJOP;2 JJUT;2 JJUX",
     "2 JJU;2 JJUP;2 JJURX;2 JJUR;2 JJYT;2 JJYX;2 JJY;2 JJYP;2 NJIT;2 NJIX;2 NJI;2 NJIP",
     "2 NJIET;2 NJIEX;2 NJIE;2 NJIEP;2 NJUOX;2 NJUO;2 NJOT;2 NJOX;2 NJO;2 NJOP;2 NJUX;2 NJU",
     "2 NJUP;2 NJURX;2 NJUR;2 NJYT;2 NJYX;2 NJY;2 NJYP;2 NJYRX;2 NJYR;2 NYIT;2 NYIX;2 NYI",
     "2 NYIP;2 NYIET;2 NYIEX;2 NYIE;2 NYIEP;2 NYUOX;2 NYUO;2 NYUOP;2 NYOT;2 NYOX;2 NYO;2 NYOP",
     "2 NYUT;2 NYUX;2 NYU;2 NYUP;2 XIT;2 XIX;2 XI;2 XIP;2 XIET;2 XIEX;2 XIE;2 XIEP;2 XUOX",
     "2 XUO;2 XOT;2 XOX;2 XO;2 XOP;2 XYT;2 XYX;2 XY;2 XYP;2 XYRX;2 XYR;2 YIT;2 YIX;2 YI;2 YIP",
     "2 YIET;2 YIEX;2 YIE;2 YIEP;2 YUOT;2 YUOX;2 YUO;2 YUOP;2 YOT;2 YOX;2 YO;2 YOP;2 YUT;2 YUX",
     "2 YU;2 YUP;2 YURX;2 YUR;2 YYT;2 YYX;2 YY;2 YYP;2 YYRX;2 YYR"]),
   (42128,
    ["YI RADICAL QOT;2 LI;2 KIT;2 NYIP;2 CYP;2 SSI;2 GGOP;2 GEP;2 MI;2 HXIT;2 LYR;2 BBUT;2 MOP",
     "2 YO;2 PUT;2 HXUO;2 TAT;2 GA;2 ZUP;2 CYT;2 DDUR;2 BUR;2 GGUO;2 NYOP;2 TU;2 OP;2 JJUT",
     "2 ZOT;2 PYT;2 HMO;2 YIT;2 VUR;2 SHY;2 VEP;2 ZA;2 JO;2 NZUP;2 JJY;2 GOT;2 JJIE;2 WO;2 DU",
     "2 SHUR;2 LIE;2 CY;2 CUOP;2 CIP;2 HXOP;2 SHAT;2 ZUR;2 SHOP;2 CHE;2 ZZIET;2 NBIE;2 KE"]),
   (42192,
    ["LISU LETTER BA;2 PA;2 PHA;2 DA;2 TA;2 THA;2 GA;2 KA;2 KHA;2 JA;2 CA;2 CHA;2 DZA;2 TSA",
     "2 TSHA;2 MA;2 NA;2 LA;2 SA;2 ZHA;2 ZA;2 NGA;2 HA;2 XA;2 HHA;2 FA;2 WA;2 SHA;2 YA;2 GHA",
     "2 A;2 AE;2 E;2 EU;2 I;2 O;2 U;2 UE;2 UH;2 OE;2 TONE MYA TI;3 NA PO;3 MYA CYA;4 BO;4 NA",
     "4 JEU;1 PUNCTUATION COMMA;2 FULL STOP;VAI SYLLABLE EE;2 EEN;2 HEE;2 WEE;2 WEEN;2 PEE",
     "2 BHEE;2 BEE;2 MBEE;2 KPEE;2 MGBEE;2 GBEE;2 FEE;2 VEE;2 TEE;2 THEE;2 DHEE;2 DHHEE;2 LEE",
     "2 REE;2 DEE;2 NDEE;2 SEE;2 SHEE;2 ZEE;2 ZHEE;2 CEE;2 JEE;2 NJEE;2 YEE;2 KEE;2 NGGEE",
     "2 GEE;2 MEE;2 NEE;2 NYEE;2 I;2 IN;2 HI;2 HIN;2 WI;2 WIN;2 PI;2 BHI;2 BI;2 MBI;2 KPI",
     "2 MGBI;2 GBI;2 FI;2 VI;2 TI;2 THI;2 DHI;2 DHHI;2 LI;2 RI;2 DI;2 NDI;2 SI;2 SHI;2 ZI",
     "2 ZHI;2 CI;2 JI;2 NJI;2 YI;2 KI;2 NGGI;2 GI;2 MI;2 NI;2 NYI;2 A;2 AN;2 NGAN;2 HA;2 HAN",
     "2 WA;2 WAN;2 PA;2 BHA;2 BA;2 MBA;2 KPA;2 KPAN;2 MGBA;2 GBA;2 FA;2 VA;2 TA;2 THA;2 DHA",
     "2 DHHA;2 LA;2 RA;2 DA;2 NDA;2 SA;2 SHA;2 ZA;2 ZHA;2 CA;2 JA;2 NJA;2 YA;2 KA;2 KAN;2 NGGA",
     "2 GA;2 MA;2 NA;2 NYA;2 OO;2 OON;2 HOO;2 WOO;2 WOON;2 POO;2 BHOO;2 BOO;2 MBOO;2 KPOO",
     "2 MGBOO;2 GBOO;2 FOO;2 VOO;2 TOO;2 THOO;2 DHOO;2 DHHOO;2 LOO;2 ROO;2 DOO;2 NDOO;2 SOO",
     "2 SHOO;2 ZOO;2 ZHOO;2 COO;2 JOO;2 NJOO;2 YOO;2 KOO;2 NGGOO;2 GOO;2 MOO;2 NOO;2 NYOO;2 U",
     "2 UN;2 HU;2 HUN;2 WU;2 WUN;2 PU;2 BHU;2 BU;2 MBU;2 KPU;2 MGBU;2 GBU;2 FU;2 VU;2 TU;2 THU",
     "2 DHU;2 DHHU;2 LU;2 RU;2 DU;2 NDU;2 SU;2 SHU;2 ZU;2 ZHU;2 CU;2 JU;2 NJU;2 YU;2 KU;2 NGGU",
     "2 GU;2 MU;2 NU;2 NYU;2 O;2 ON;2 NGON;2 HO;2 HON;2 WO;2 WON;2 PO;2 BHO;2 BO;2 MBO;2 KPO",
     "2 MGBO;2 GBO;2 GBON;2 FO;2 VO;2 TO;2 THO;2 DHO;2 DHHO;2 LO;2 RO;2 DO;2 NDO;2 SO;2 SHO",
     "2 ZO;2 ZHO;2 CO;2 JO;2 NJO;2 YO;2 KO;2 NGGO;2 GO;2 MO;2 NO;2 NYO;2 E;2 EN;2 NGEN;2 HE",
     "2 HEN;2 WE;2 WEN;2 PE;2 BHE;2 BE;2 MBE;2 KPE;2 KPEN;2 MGBE;2 GBE;2 GBEN;2 FE;2 VE;2 TE",
     "2 THE;2 DHE;2 DHHE;2 LE;2 RE;2 DE;2 NDE;2 SE;2 SHE;2 ZE;2 ZHE;2 CE;2 JE;2 NJE;2 YE;2 KE",
     "2 NGGE;2 NGGEN;2 GE;2 GEN;2 ME;2 NE;2 NYE;2 NG;2 LENGTHENER;1 COMMA;1 FULL STOP",
     "1 QUESTION MARK;1 SYLLABLE NDOLE FA;3 KA;3 SOO;1 SYMBOL FEENG;2 KEENG;2 TING;2 NII",
     "2 BANG;2 FAA;2 TAA;2 DANG;2 DOONG;2 KUNG;2 TONG;2 DO-O;2 JONG;1 DIGIT ZERO;2 ONE;2 TWO",
     "2 THREE;2 FOUR;2 FIVE;2 SIX;2 SEVEN;2 EIGHT;2 NINE;1 SYLLABLE NDOLE MA;3 DO"]),
   (42560,
    ["CYRILLIC CAPITAL LETTER ZEMLYA;1 SMALL LETTER ZEMLYA;1 CAPITAL LETTER DZELO",
     "1 SMALL LETTER DZELO;1 CAPITAL LETTER REVERSED DZE;1 SMALL LETTER REVERSED DZE",
     "1 CAPITAL LETTER IOTA;1 SMALL LETTER IOTA;1 CAPITAL LETTER DJERV;1 SMALL LETTER DJERV",
     "1 CAPITAL LETTER MONOGRAPH UK;1 SMALL LETTER MONOGRAPH UK;1 CAPITAL LETTER BROAD OMEGA",
     "1 SMALL LETTER BROAD OMEGA;1 CAPITAL LETTER NEUTRAL YER;1 SMALL LETTER NEUTRAL YER",
     "1 CAPITAL LETTER YERU WITH BACK YER;1 SMALL LETTER YERU WITH BACK YER",
     "1 CAPITAL LETTER IOTIFIED YAT;1 SMALL LETTER IOTIFIED YAT;1 CAPITAL LETTER REVERSED YU",
     "1 SMALL LETTER REVERSED YU;1 CAPITAL LETTER IOTIFIED A;1 SMALL LETTER IOTIFIED A",
     "1 CAPITAL LETTER CLOSED LITTLE YUS;1 SMALL LETTER CLOSED LITTLE YUS",
     "1 CAPITAL LETTER BLENDED YUS;1 SMALL LETTER BLENDED YUS",
     "1 CAPITAL LETTER IOTIFIED CLOSED LITTLE YUS;1 SMALL LETTER IOTIFIED CLOSED LITTLE YUS",
     "1 CAPITAL LETTER YN;1 SMALL LETTER YN;1 CAPITAL LETTER REVERSED TSE",
     "1 SMALL LETTER REVERSED TSE;1 CAPITAL LETTER SOFT DE;1 SMALL LETTER SOFT DE",
     "1 CAPITAL LETTER SOFT EL;1 SMALL LETTER SOFT EL;1 CAPITAL LETTER SOFT EM",
     "1 SMALL LETTER SOFT EM;1 CAPITAL LETTER MONOCULAR O;1 SMALL LETTER MONOCULAR O",
     "1 CAPITAL LETTER BINOCULAR O;1 SMALL LETTER BINOCULAR O",
     "1 CAPITAL LETTER DOUBLE MONOCULAR O;1 SMALL LETTER DOUBLE MONOCULAR O",
     "1 LETTER MULTIOCULAR O;COMBINING CYRILLIC VZMET;2 TEN MILLIONS SIGN",
     "2 HUNDRED MILLIONS SIGN;2 THOUSAND MILLIONS SIGN;SLAVONIC ASTERISK",
     "COMBINING CYRILLIC LETTER UKRAINIAN IE;3 I;3 YI;3 U;3 HARD SIGN;3 YERU;3 SOFT SIGN",
     "3 OMEGA;2 KAVYKA;2 PAYEROK;CYRILLIC KAVYKA;1 PAYEROK;1 CAPITAL LETTER DWE",
     "1 SMALL LETTER DWE;1 CAPITAL LETTER DZWE;1 SMALL LETTER DZWE;1 CAPITAL LETTER ZHWE",
     "1 SMALL LETTER ZHWE;1 CAPITAL LETTER CCHE;1 SMALL LETTER CCHE;1 CAPITAL LETTER DZZE",
     "1 SMALL LETTER DZZE;1 CAPITAL LETTER TE WITH MIDDLE HOOK",
     "1 SMALL LETTER TE WITH MIDDLE HOOK;1 CAPITAL LETTER TWE;1 SMALL LETTER TWE",
     "1 CAPITAL LETTER TSWE;1 SMALL LETTER TSWE;1 CAPITAL LETTER TSSE;1 SMALL LETTER TSSE",
     "1 CAPITAL LETTER TCHE;1 SMALL LETTER TCHE;1 CAPITAL LETTER HWE;1 SMALL LETTER HWE",
     "1 CAPITAL LETTER SHWE;1 SMALL LETTER SHWE;1 CAPITAL LETTER DOUBLE O",
     "1 SMALL LETTER DOUBLE O;1 CAPITAL LETTER CROSSED O;1 SMALL LETTER CROSSED O",
     "MODIFIER LETTER CYRILLIC HARD SIGN;3 SOFT SIGN;COMBINING CYRILLIC LETTER EF;3 IOTIFIED E",
     "BAMUM LETTER A;2 KA;2 U;2 KU;2 EE;2 REE;2 TAE;2 O;2 NYI;2 I;2 LA;2 PA;2 RII;2 RIEE",
     "2 LEEEE;2 MEEEE;2 TAA;2 NDAA;2 NJAEM;2 M;2 SUU;2 MU;2 SHII;2 SI;2 SHEUX;2 SEUX;2 KYEE",
     "2 KET;2 NUAE;2 NU;2 NJUAE;2 YOQ;2 SHU;2 YUQ;2 YA;2 NSHA;2 KEUX;2 PEUX;2 NJEE;2 NTEE",
     "2 PUE;2 WUE;2 PEE;2 FEE;2 RU;2 LU;2 MI;2 NI;2 REUX;2 RAE;2 KEN;2 NGKWAEN;2 NGGA;2 NGA",
     "2 SHO;2 PUAE;2 FU;2 FOM;2 WA;2 NA;2 LI;2 PI;2 LOQ;2 KO;2 MBEN;2 REN;2 MEN;2 MA;2 TI;2 KI",
     "2 MO;2 MBAA;2 TET;2 KPA;2 TEN;2 NTUU;2 SAMBA;2 FAAMAE;2 KOVUU;2 KOGHOM",
     "1 COMBINING MARK KOQNDON;3 TUKWENTIS;1 NJAEMLI;1 FULL STOP;1 COLON;1 COMMA;1 SEMICOLON",
     "1 QUESTION MARK"]),
   (42752,
    ["MODIFIER LETTER CHINESE TONE YIN PING;4 YANG PING;4 YIN SHANG;4 YANG SHANG;4 YIN QU",
     "4 YANG QU;4 YIN RU;4 YANG RU;2 EXTRA-HIGH DOTTED TONE BAR;2 HIGH DOTTED TONE BAR",
     "2 MID DOTTED TONE BAR;2 LOW DOTTED TONE BAR;2 EXTRA-LOW DOTTED TONE BAR",
     "2 EXTRA-HIGH DOTTED LEFT-STEM TONE BAR;2 HIGH DOTTED LEFT-STEM TONE BAR",
     "2 MID DOTTED LEFT-STEM TONE BAR;2 LOW DOTTED LEFT-STEM TONE BAR",
     "2 EXTRA-LOW DOTTED LEFT-STEM TONE BAR;2 EXTRA-HIGH LEFT-STEM TONE BAR",
     "2 HIGH LEFT-STEM TONE BAR;2 MID LEFT-STEM TONE BAR;2 LOW LEFT-STEM TONE BAR",
     "2 EXTRA-LOW LEFT-STEM TONE BAR;2 DOT VERTICAL BAR;3 SLASH;3 HORIZONTAL BAR",
     "2 LOWER RIGHT CORNER ANGLE;2 RAISED UP ARROW;3 DOWN ARROW;3 EXCLAMATION MARK",
     "3 INVERTED EXCLAMATION MARK;2 LOW INVERTED EXCLAMATION MARK;2 STRESS AND HIGH TONE",
     "4 LOW TONE;LATIN CAPITAL LETTER EGYPTOLOGICAL ALEF;1 SMALL LETTER EGYPTOLOGICAL ALEF",
     "1 CAPITAL LETTER EGYPTOLOGICAL AIN;1 SMALL LETTER EGYPTOLOGICAL AIN",
     "1 CAPITAL LETTER HENG;1 SMALL LETTER HENG;1 CAPITAL LETTER TZ;1 SMALL LETTER TZ",
     "1 CAPITAL LETTER TRESILLO;1 SMALL LETTER TRESILLO;1 CAPITAL LETTER CUATRILLO",
     "1 SMALL LETTER CUATRILLO;1 CAPITAL LETTER CUATRILLO WITH COMMA",
     "1 SMALL LETTER CUATRILLO WITH COMMA;1 LETTER SMALL CAPITAL F;4 S;1 CAPITAL LETTER AA",
     "1 SMALL LETTER AA;1 CAPITAL LETTER AO;1 SMALL LETTER AO;1 CAPITAL LETTER AU",
     "1 SMALL LETTER AU;1 CAPITAL LETTER AV;1 SMALL LETTER AV",
     "1 CAPITAL LETTER AV WITH HORIZONTAL BAR;1 SMALL LETTER AV WITH HORIZONTAL BAR",
     "1 CAPITAL LETTER AY;1 SMALL LETTER AY;1 CAPITAL LETTER REVERSED C WITH DOT",
     "1 SMALL LETTER REVERSED C WITH DOT;1 CAPITAL LETTER K WITH STROKE",
     "1 SMALL LETTER K WITH STROKE;1 CAPITAL LETTER K WITH DIAGONAL STROKE",
     "1 SMALL LETTER K WITH DIAGONAL STROKE;1 CAPITAL LETTER K WITH STROKE AND DIAGONAL STROKE",
     "1 SMALL LETTER K WITH STROKE AND DIAGONAL STROKE;1 CAPITAL LETTER BROKEN L",
     "1 SMALL LETTER BROKEN L;1 CAPITAL LETTER L WITH HIGH STROKE",
     "1 SMALL LETTER L WITH HIGH STROKE;1 CAPITAL LETTER O WITH LONG STROKE OVERLAY",
     "1 SMALL LETTER O WITH LONG STROKE OVERLAY;1 CAPITAL LETTER O WITH LOOP",
     "1 SMALL LETTER O WITH LOOP;1 CAPITAL LETTER OO;1 SMALL LETTER OO",
     "1 CAPITAL LETTER P WITH STROKE THROUGH DESCENDER",
     "1 SMALL LETTER P WITH STROKE THROUGH DESCENDER;1 CAPITAL LETTER P WITH FLOURISH",
     "1 SMALL LETTER P WITH FLOURISH;1 CAPITAL LETTER P WITH SQUIRREL TAIL",
     "1 SMALL LETTER P WITH SQUIRREL TAIL;1 CAPITAL LETTER Q WITH STROKE THROUGH DESCENDER",
     "1 SMALL LETTER Q WITH STROKE THROUGH DESCENDER;1 CAPITAL LETTER Q WITH DIAGONAL STROKE",
     "1 SMALL LETTER Q WITH DIAGONAL STROKE;1 CAPITAL LETTER R ROTUNDA",
     "1 SMALL LETTER R ROTUNDA;1 CAPITAL LETTER RUM ROTUNDA;1 SMALL LETTER RUM ROTUNDA",
     "1 CAPITAL LETTER V WITH DIAGONAL STROKE;1 SMALL LETTER V WITH DIAGONAL STROKE",
     "1 CAPITAL LETTER VY;1 SMALL LETTER VY;1 CAPITAL LETTER VISIGOTHIC Z",
     "1 SMALL LETTER VISIGOTHIC Z;1 CAPITAL LETTER THORN WITH STROKE",
     "1 SMALL LETTER THORN WITH STROKE;1 CAPITAL LETTER THORN WITH STROKE THROUGH DESCENDER",
     "1 SMALL LETTER THORN WITH STROKE THROUGH DESCENDER;1 CAPITAL LETTER VEND",
     "1 SMALL LETTER VEND;1 CAPITAL LETTER ET;1 SMALL LETTER ET;1 CAPITAL LETTER IS",
     "1 SMALL LETTER IS;1 CAPITAL LETTER CON;1 SMALL LETTER CON;MODIFIER LETTER US",
     "LATIN SMALL LETTER DUM;3 LUM;3 MUM;3 NUM;3 RUM;1 LETTER SMALL CAPITAL RUM",
     "1 SMALL LETTER TUM;3 UM;1 CAPITAL LETTER INSULAR D;1 SMALL LETTER INSULAR D",
     "1 CAPITAL LETTER INSULAR F;1 SMALL LETTER INSULAR F;1 CAPITAL LETTER INSULAR G",
     "3 TURNED INSULAR G;1 SMALL LETTER TURNED INSULAR G;1 CAPITAL LETTER TURNED L",
     "1 SMALL LETTER TURNED L;1 CAPITAL LETTER INSULAR R;1 SMALL LETTER INSULAR R",
     "1 CAPITAL LETTER INSULAR S;1 SMALL LETTER INSULAR S;1 CAPITAL LETTER INSULAR T",
     "1 SMALL LETTER INSULAR T;MODIFIER LETTER LOW CIRCUMFLEX ACCENT;2 COLON",
     "2 SHORT EQUALS SIGN;LATIN CAPITAL LETTER SALTILLO;1 SMALL LETTER SALTILLO",
     "1 CAPITAL LETTER TURNED H;1 SMALL LETTER L WITH RETROFLEX HOOK AND BELT",
     "1 LETTER SINOLOGICAL DOT;1 CAPITAL LETTER N WITH DESCENDER",
     "1 SMALL LETTER N WITH DESCENDER;1 CAPITAL LETTER C WITH BAR;1 SMALL LETTER C WITH BAR",
     "5 PALATAL HOOK;3 H WITH PALATAL HOOK;1 CAPITAL LETTER B WITH FLOURISH",
     "1 SMALL LETTER B WITH FLOURISH;1 CAPITAL LETTER F WITH STROKE",
     "1 SMALL LETTER F WITH STROKE;1 CAPITAL LETTER VOLAPUK AE;1 SMALL LETTER VOLAPUK AE",
     "1 CAPITAL LETTER VOLAPUK OE;1 SMALL LETTER VOLAPUK OE;1 CAPITAL LETTER VOLAPUK UE",
     "1 SMALL LETTER VOLAPUK UE;1 CAPITAL LETTER G WITH OBLIQUE STROKE",
     "1 SMALL LETTER G WITH OBLIQUE STROKE;1 CAPITAL LETTER K WITH OBLIQUE STROKE",
     "1 SMALL LETTER K WITH OBLIQUE STROKE;1 CAPITAL LETTER N WITH OBLIQUE STROKE",
     "1 SMALL LETTER N WITH OBLIQUE STROKE;1 CAPITAL LETTER R WITH OBLIQUE STROKE",
     "1 SMALL LETTER R WITH OBLIQUE STROKE;1 CAPITAL LETTER S WITH OBLIQUE STROKE",
     "1 SMALL LETTER S WITH OBLIQUE STROKE;1 CAPITAL LETTER H WITH HOOK;3 REVERSED OPEN E",
     "3 SCRIPT G;3 L WITH BELT;3 SMALL CAPITAL I;1 LETTER SMALL CAPITAL Q",
     "1 CAPITAL LETTER TURNED K;4 T;3 J WITH CROSSED-TAIL;3 CHI;3 BETA;1 SMALL LETTER BETA",
     "1 CAPITAL LETTER OMEGA;1 SMALL LETTER OMEGA;1 CAPITAL LETTER U WITH STROKE",
     "1 SMALL LETTER U WITH STROKE;1 CAPITAL LETTER GLOTTAL A;1 SMALL LETTER GLOTTAL A",
     "1 CAPITAL LETTER GLOTTAL I;1 SMALL LETTER GLOTTAL I;1 CAPITAL LETTER GLOTTAL U",
     "1 SMALL LETTER GLOTTAL U;1 CAPITAL LETTER OLD POLISH O;1 SMALL LETTER OLD POLISH O",
     "1 CAPITAL LETTER ANGLICANA W;1 SMALL LETTER ANGLICANA W",
     "1 CAPITAL LETTER C WITH PALATAL HOOK;3 S WITH HOOK;3 Z WITH PALATAL HOOK",
     "3 D WITH SHORT STROKE OVERLAY;1 SMALL LETTER D WITH SHORT STROKE OVERLAY",
     "1 CAPITAL LETTER S WITH SHORT STROKE OVERLAY;1 SMALL LETTER S WITH SHORT STROKE OVERLAY"]),
   (42960, ["LATIN CAPITAL LETTER CLOSED INSULAR G;1 SMALL LETTER CLOSED INSULAR G"]),
   (42963, ["LATIN SMALL LETTER DOUBLE THORN"]),
   (42965,
    ["LATIN SMALL LETTER DOUBLE WYNN;1 CAPITAL LETTER MIDDLE SCOTS S",
     "1 SMALL LETTER MIDDLE SCOTS S;1 CAPITAL LETTER SIGMOID S;1 SMALL LETTER SIGMOID S"]),
   (42994,
    ["MODIFIER LETTER CAPITAL C;3 F;3 Q;LATIN CAPITAL LETTER REVERSED HALF H",
     "1 SMALL LETTER REVERSED HALF H;1 EPIGRAPHIC LETTER SIDEWAYS I",
     "MODIFIER LETTER CAPITAL H WITH STROKE;2 SMALL LIGATURE OE",
     "LATIN LETTER SMALL CAPITAL TURNED M;1 EPIGRAPHIC LETTER REVERSED F;4 P;3 INVERTED M",
     "3 I LONGA;3 ARCHAIC M;SYLOTI NAGRI LETTER A;3 I;2 SIGN DVISVARA;2 LETTER U;3 E;3 O",
     "2 SIGN HASANTA;2 LETTER KO;3 KHO;3 GO;3 GHO;2 SIGN ANUSVARA;2 LETTER CO;3 CHO;3 JO;3 JHO",
     "3 TTO;3 TTHO;3 DDO;3 DDHO;3 TO;3 THO;3 DO;3 DHO;3 NO;3 PO;3 PHO;3 BO;3 BHO;3 MO;3 RO",
     "3 LO;3 RRO;3 SO;3 HO;2 VOWEL SIGN A;4 I;4 U;4 E;4 OO;2 POETRY MARK-1;3 MARK-2;3 MARK-3",
     "3 MARK-4;2 SIGN ALTERNATE HASANTA"]),
   (43056,
    ["NORTH INDIC FRACTION ONE QUARTER;4 HALF;3 THREE QUARTERS;3 ONE SIXTEENTH;4 EIGHTH",
     "3 THREE SIXTEENTHS;2 QUARTER MARK;2 PLACEHOLDER MARK;2 RUPEE MARK;2 QUANTITY MARK"]),
   (43072,
    ["PHAGS-PA LETTER KA;2 KHA;2 GA;2 NGA;2 CA;2 CHA;2 JA;2 NYA;2 TA;2 THA;2 DA;2 NA;2 PA",
     "2 PHA;2 BA;2 MA;2 TSA;2 TSHA;2 DZA;2 WA;2 ZHA;2 ZA;2 SMALL A;2 YA;2 RA;2 LA;2 SHA;2 SA",
     "2 HA;2 A;2 I;2 U;2 E;2 O;2 QA;2 XA;2 FA;2 GGA;2 EE;1 SUBJOINED LETTER WA;3 YA",
     "1 LETTER TTA;2 TTHA;2 DDA;2 NNA;2 ALTERNATE YA;2 VOICELESS SHA;2 VOICED HA",
     "2 ASPIRATED FA;1 SUBJOINED LETTER RA;1 SUPERFIXED LETTER RA;1 LETTER CANDRABINDU",
     "1 SINGLE HEAD MARK;1 DOUBLE HEAD MARK;1 MARK SHAD;2 DOUBLE SHAD"]),
   (43136,
    ["SAURASHTRA SIGN ANUSVARA;2 VISARGA;1 LETTER A;2 AA;2 I;2 II;2 U;2 UU;2 VOCALIC R;3 RR",
     "3 L;3 LL;2 E;2 EE;2 AI;2 O;2 OO;2 AU;2 KA;2 KHA;2 GA;2 GHA;2 NGA;2 CA;2 CHA;2 JA;2 JHA",
     "2 NYA;2 TTA;2 TTHA;2 DDA;2 DDHA;2 NNA;2 TA;2 THA;2 DA;2 DHA;2 NA;2 PA;2 PHA;2 BA;2 BHA",
     "2 MA;2 YA;2 RA;2 LA;2 VA;2 SHA;2 SSA;2 SA;2 HA;2 LLA;1 CONSONANT SIGN HAARU",
     "1 VOWEL SIGN AA;3 I;3 II;3 U;3 UU;3 VOCALIC R;4 RR;4 L;4 LL;3 E;3 EE;3 AI;3 O;3 OO;3 AU",
     "1 SIGN VIRAMA;2 CANDRABINDU"]),
   (43214,
    ["SAURASHTRA DANDA;1 DOUBLE DANDA;1 DIGIT ZERO;2 ONE;2 TWO;2 THREE;2 FOUR;2 FIVE;2 SIX",
     "2 SEVEN;2 EIGHT;2 NINE"]),
   (43232,
    ["COMBINING DEVANAGARI DIGIT ZERO;3 ONE;3 TWO;3 THREE;3 FOUR;3 FIVE;3 SIX;3 SEVEN;3 EIGHT",
     "3 NINE;2 LETTER A;3 U;3 KA;3 NA;3 PA;3 RA;3 VI;2 SIGN AVAGRAHA",
     "DEVANAGARI SIGN SPACING CANDRABINDU;2 CANDRABINDU VIRAMA;2 DOUBLE CANDRABINDU VIRAMA",
     "2 CANDRABINDU TWO;3 THREE;3 AVAGRAHA;2 PUSHPIKA;1 GAP FILLER;1 CARET;1 HEADSTROKE",
     "1 SIGN SIDDHAM;1 JAIN OM;1 LETTER AY;1 VOWEL SIGN AY;KAYAH LI DIGIT ZERO;3 ONE;3 TWO",
     "3 THREE;3 FOUR;3 FIVE;3 SIX;3 SEVEN;3 EIGHT;3 NINE;2 LETTER KA;3 KHA;3 GA;3 NGA;3 SA",
     "3 SHA;3 ZA;3 NYA;3 TA;3 HTA;3 NA;3 PA;3 PHA;3 MA;3 DA;3 BA;3 RA;3 YA;3 LA;3 WA;3 THA",
     "3 HA;3 VA;3 CA;3 A;3 OE;3 I;3 OO;2 VOWEL UE;3 E;3 U;3 EE;3 O;2 TONE PLOPHU;3 CALYA",
     "4 PLOPHU;2 SIGN CWI;3 SHYA;REJANG LETTER KA;2 GA;2 NGA;2 TA;2 DA;2 NA;2 PA;2 BA;2 MA",
     "2 CA;2 JA;2 NYA;2 SA;2 RA;2 LA;2 YA;2 WA;2 HA;2 MBA;2 NGGA;2 NDA;2 NYJA;2 A",
     "1 VOWEL SIGN I;3 U;3 E;3 AI;3 O;3 AU;3 EU;3 EA;1 CONSONANT SIGN NG;3 N;3 R;3 H;1 VIRAMA"]),
   (43359,
    ["REJANG SECTION MARK;HANGUL CHOSEONG TIKEUT-MIEUM;2 TIKEUT-PIEUP;2 TIKEUT-SIOS",
     "2 TIKEUT-CIEUC;2 RIEUL-KIYEOK;2 RIEUL-SSANGKIYEOK;2 RIEUL-TIKEUT;2 RIEUL-SSANGTIKEUT",
     "2 RIEUL-MIEUM;2 RIEUL-PIEUP;2 RIEUL-SSANGPIEUP;2 RIEUL-KAPYEOUNPIEUP;2 RIEUL-SIOS",
     "2 RIEUL-CIEUC;2 RIEUL-KHIEUKH;2 MIEUM-KIYEOK;2 MIEUM-TIKEUT;2 MIEUM-SIOS",
     "2 PIEUP-SIOS-THIEUTH;2 PIEUP-KHIEUKH;2 PIEUP-HIEUH;2 SSANGSIOS-PIEUP;2 IEUNG-RIEUL",
     "2 IEUNG-HIEUH;2 SSANGCIEUC-HIEUH;2 SSANGTHIEUTH;2 PHIEUPH-HIEUH;2 HIEUH-SIOS",
     "2 SSANGYEORINHIEUH"]),
   (43392,
    ["JAVANESE SIGN PANYANGGA;2 CECAK;2 LAYAR;2 WIGNYAN;1 LETTER A;2 I KAWI;2 I;2 II;2 U",
     "2 PA CEREK;2 NGA LELET;4 RASWADI;2 E;2 AI;2 O;2 KA;3 SASAK;3 MURDA;2 GA;3 MURDA;2 NGA",
     "2 CA;3 MURDA;2 JA;2 NYA MURDA;2 JA MAHAPRANA;2 NYA;2 TTA;3 MAHAPRANA;2 DDA;3 MAHAPRANA",
     "2 NA MURDA;2 TA;3 MURDA;2 DA;3 MAHAPRANA;2 NA;2 PA;3 MURDA;2 BA;3 MURDA;2 MA;2 YA;2 RA",
     "3 AGUNG;2 LA;2 WA;2 SA MURDA;3 MAHAPRANA;2 SA;2 HA;1 SIGN CECAK TELU;1 VOWEL SIGN TARUNG",
     "3 TOLONG;3 WULU;4 MELIK;3 SUKU;4 MENDUT;3 TALING;3 DIRGA MURE;3 PEPET",
     "1 CONSONANT SIGN KERET;3 PENGKAL;3 CAKRA;1 PANGKON;1 LEFT RERENGGAN;1 RIGHT RERENGGAN",
     "1 PADA ANDAP;2 MADYA;2 LUHUR;2 WINDU;2 PANGKAT;2 LINGSA;2 LUNGSI;2 ADEG;3 ADEG;2 PISELEH",
     "1 TURNED PADA PISELEH"]),
   (43471,
    ["JAVANESE PANGRANGKEP;1 DIGIT ZERO;2 ONE;2 TWO;2 THREE;2 FOUR;2 FIVE;2 SIX;2 SEVEN",
     "2 EIGHT;2 NINE"]),
   (43486,
    ["JAVANESE PADA TIRTA TUMETES;2 ISEN-ISEN;MYANMAR LETTER SHAN GHA;3 CHA;3 JHA;3 NNA;3 BHA",
     "1 SIGN SHAN SAW;1 MODIFIER LETTER SHAN REDUPLICATION;1 LETTER TAI LAING NYA;4 FA;4 GA",
     "4 GHA;4 JA;4 JHA;4 DDA;4 DDHA;4 NNA;1 TAI LAING DIGIT ZERO;4 ONE;4 TWO;4 THREE;4 FOUR",
     "4 FIVE;4 SIX;4 SEVEN;4 EIGHT;4 NINE;1 LETTER TAI LAING LLA;4 DA;4 DHA;4 BA;4 BHA"]),
   (43520,
    ["CHAM LETTER A;2 I;2 U;2 E;2 AI;2 O;2 KA;2 KHA;2 GA;2 GHA;2 NGUE;2 NGA;2 CHA;2 CHHA;2 JA",
     "2 JHA;2 NHUE;2 NHA;2 NHJA;2 TA;2 THA;2 DA;2 DHA;2 NUE;2 NA;2 DDA;2 PA;2 PPA;2 PHA;2 BA",
     "2 BHA;2 MUE;2 MA;2 BBA;2 YA;2 RA;2 LA;2 VA;2 SSA;2 SA;2 HA;1 VOWEL SIGN AA;3 I;3 II;3 EI",
     "3 U;3 OE;3 O;3 AI;3 AU;3 UE;1 CONSONANT SIGN YA;3 RA;3 LA;3 WA"]),
   (43584,
    ["CHAM LETTER FINAL K;3 G;3 NG;1 CONSONANT SIGN FINAL NG;1 LETTER FINAL CH;3 T;3 N;3 P;3 Y",
     "3 R;3 L;3 SS;1 CONSONANT SIGN FINAL M;4 H"]),
   (43600, ["CHAM DIGIT ZERO;2 ONE;2 TWO;2 THREE;2 FOUR;2 FIVE;2 SIX;2 SEVEN;2 EIGHT;2 NINE"]),
   (43612,
    ["CHAM PUNCTUATION SPIRAL;2 DANDA;2 DOUBLE DANDA;2 TRIPLE DANDA;MYANMAR LETTER KHAMTI GA",
     "3 CA;3 CHA;3 JA;3 JHA;3 NYA;3 TTA;3 TTHA;3 DDA;3 DDHA;3 DHA;3 NA;3 SA;3 HA;3 HHA;3 FA",
     "1 MODIFIER LETTER KHAMTI REDUPLICATION;1 LETTER KHAMTI XA;3 ZA;3 RA",
     "1 LOGOGRAM KHAMTI OAY;3 QN;3 HM;1 SYMBOL AITON EXCLAMATION;3 ONE;3 TWO;1 LETTER AITON RA",
     "1 SIGN PAO KAREN TONE;2 TAI LAING TONE-2;4 TONE-5;1 LETTER SHWE PALAUNG CHA;4 SHA",
     "TAI VIET LETTER LOW KO;3 HIGH KO;3 LOW KHO;3 HIGH KHO;3 LOW KHHO;3 HIGH KHHO;3 LOW GO",
     "3 HIGH GO;3 LOW NGO;3 HIGH NGO;3 LOW CO;3 HIGH CO;3 LOW CHO;3 HIGH CHO;3 LOW SO",
     "3 HIGH SO;3 LOW NYO;3 HIGH NYO;3 LOW DO;3 HIGH DO;3 LOW TO;3 HIGH TO;3 LOW THO",
     "3 HIGH THO;3 LOW NO;3 HIGH NO;3 LOW BO;3 HIGH BO;3 LOW PO;3 HIGH PO;3 LOW PHO;3 HIGH PHO",
     "3 LOW FO;3 HIGH FO;3 LOW MO;3 HIGH MO;3 LOW YO;3 HIGH YO;3 LOW RO;3 HIGH RO;3 LOW LO",
     "3 HIGH LO;3 LOW VO;3 HIGH VO;3 LOW HO;3 HIGH HO;3 LOW O;3 HIGH O;2 MAI KANG;2 VOWEL AA",
     "3 I;3 UE;3 U;3 E;3 O;2 MAI KHIT;2 VOWEL IA;3 UEA;3 UA;3 AUE;3 AY;3 AN;3 AM;2 TONE MAI EK",
     "4 NUENG;4 THO;4 SONG"]),
   (43739,
    ["TAI VIET SYMBOL KON;3 NUENG;3 SAM;3 HO HOI;3 KOI KOI;MEETEI MAYEK LETTER E;3 O;3 CHA",
     "3 NYA;3 TTA;3 TTHA;3 DDA;3 DDHA;3 NNA;3 SHA;3 SSA;2 VOWEL SIGN II;4 UU;4 AAI;4 AU;4 AAU",
     "2 CHEIKHAN;2 AHANG KHUDAM;2 ANJI;2 SYLLABLE REPETITION MARK;2 WORD REPETITION MARK",
     "2 VOWEL SIGN VISARGA;2 VIRAMA"]),
   (43777, ["ETHIOPIC SYLLABLE TTHU;2 TTHI;2 TTHAA;2 TTHEE;2 TTHE;2 TTHO"]),
   (43785, ["ETHIOPIC SYLLABLE DDHU;2 DDHI;2 DDHAA;2 DDHEE;2 DDHE;2 DDHO"]),
   (43793, ["ETHIOPIC SYLLABLE DZU;2 DZI;2 DZAA;2 DZEE;2 DZE;2 DZO"]),
   (43808, ["ETHIOPIC SYLLABLE CCHHA;2 CCHHU;2 CCHHI;2 CCHHAA;2 CCHHEE;2 CCHHE;2 CCHHO"]),
   (43816, ["ETHIOPIC SYLLABLE BBA;2 BBU;2 BBI;2 BBAA;2 BBEE;2 BBE;2 BBO"]),
   (43824,
    ["LATIN SMALL LETTER BARRED ALPHA;3 A REVERSED-SCHWA;3 BLACKLETTER E;3 BARRED E",
     "3 E WITH FLOURISH;3 LENIS F;3 SCRIPT G WITH CROSSED-TAIL;3 L WITH INVERTED LAZY S",
     "5 DOUBLE MIDDLE TILDE;5 MIDDLE RING;3 M WITH CROSSED-TAIL;3 N WITH CROSSED-TAIL",
     "3 ENG WITH CROSSED-TAIL;3 BLACKLETTER O;5 WITH STROKE;3 OPEN O WITH STROKE;3 INVERTED OE",
     "3 TURNED OE WITH STROKE;6 HORIZONTAL STROKE;4 O OPEN-O;6 WITH STROKE;3 STIRRUP R",
     "1 LETTER SMALL CAPITAL R WITH RIGHT LEG;1 SMALL LETTER R WITHOUT HANDLE;3 DOUBLE R",
     "3 R WITH CROSSED-TAIL;3 DOUBLE R WITH CROSSED-TAIL;3 SCRIPT R;5 WITH RING;3 BASELINE ESH",
     "3 U WITH SHORT RIGHT LEG;4 BAR WITH SHORT RIGHT LEG;3 UI;3 TURNED UI;3 U WITH LEFT HOOK",
     "3 CHI;4 WITH LOW RIGHT RING;6 LEFT SERIF;3 X WITH LOW RIGHT RING;5 LONG LEFT LEG",
     "8 AND LOW RIGHT RING;8 WITH SERIF;3 Y WITH SHORT RIGHT LEG",
     "MODIFIER BREVE WITH INVERTED BREVE;1 LETTER SMALL HENG;3 L WITH INVERTED LAZY S",
     "5 MIDDLE TILDE;3 U WITH LEFT HOOK;LATIN SMALL LETTER SAKHA YAT;3 IOTIFIED E;3 OPEN OE",
     "3 UO;3 INVERTED ALPHA;GREEK LETTER SMALL CAPITAL OMEGA",
     "LATIN SMALL LETTER DZ DIGRAPH WITH RETROFLEX HOOK;3 TS DIGRAPH WITH RETROFLEX HOOK",
     "3 TURNED R WITH MIDDLE TILDE;MODIFIER LETTER SMALL TURNED W;2 LEFT TACK;2 RIGHT TACK"]),
   (43888,
    ["CHEROKEE SMALL LETTER A;3 E;3 I;3 O;3 U;3 V;3 GA;3 KA;3 GE;3 GI;3 GO;3 GU;3 GV;3 HA;3 HE",
     "3 HI;3 HO;3 HU;3 HV;3 LA;3 LE;3 LI;3 LO;3 LU;3 LV;3 MA;3 ME;3 MI;3 MO;3 MU;3 NA;3 HNA",
     "3 NAH;3 NE;3 NI;3 NO;3 NU;3 NV;3 QUA;3 QUE;3 QUI;3 QUO;3 QUU;3 QUV;3 SA;3 S;3 SE;3 SI",
     "3 SO;3 SU;3 SV;3 DA;3 TA;3 DE;3 TE;3 DI;3 TI;3 DO;3 DU;3 DV;3 DLA;3 TLA;3 TLE;3 TLI",
     "3 TLO;3 TLU;3 TLV;3 TSA;3 TSE;3 TSI;3 TSO;3 TSU;3 TSV;3 WA;3 WE;3 WI;3 WO;3 WU;3 WV;3 YA",
     "MEETEI MAYEK LETTER KOK;3 SAM;3 LAI;3 MIT;3 PA;3 NA;3 CHIL;3 TIL;3 KHOU;3 NGOU;3 THOU",
     "3 WAI;3 YANG;3 HUK;3 UN;3 I;3 PHAM;3 ATIYA;3 GOK;3 JHAM;3 RAI;3 BA;3 JIL;3 DIL;3 GHOU",
     "3 DHOU;3 BHAM;3 KOK LONSUM;3 LAI LONSUM;3 MIT LONSUM;3 PA LONSUM;3 NA LONSUM",
     "3 TIL LONSUM;3 NGOU LONSUM;3 I LONSUM;2 VOWEL SIGN ONAP;4 INAP;4 ANAP;4 YENAP;4 SOUNAP",
     "4 UNAP;4 CHEINAP;4 NUNG;2 CHEIKHEI;2 LUM IYEK;2 APUN IYEK"]),
   (44016,
    ["MEETEI MAYEK DIGIT ZERO;3 ONE;3 TWO;3 THREE;3 FOUR;3 FIVE;3 SIX;3 SEVEN;3 EIGHT;3 NINE"]),
   (55216,
    ["HANGUL JUNGSEONG O-YEO;2 O-O-I;2 YO-A;2 YO-AE;2 YO-EO;2 U-YEO;2 U-I-I;2 YU-AE;2 YU-O",
     "2 EU-A;2 EU-EO;2 EU-E;2 EU-O;2 I-YA-O;2 I-YAE;2 I-YEO;2 I-YE;2 I-O-I;2 I-YO;2 I-YU;2 I-I",
     "2 ARAEA-A;2 ARAEA-E"]),
   (55243,
    ["HANGUL JONGSEONG NIEUN-RIEUL;2 NIEUN-CHIEUCH;2 SSANGTIKEUT;2 SSANGTIKEUT-PIEUP",
     "2 TIKEUT-PIEUP;2 TIKEUT-SIOS;2 TIKEUT-SIOS-KIYEOK;2 TIKEUT-CIEUC;2 TIKEUT-CHIEUCH",
     "2 TIKEUT-THIEUTH;2 RIEUL-SSANGKIYEOK;2 RIEUL-KIYEOK-HIEUH;2 SSANGRIEUL-KHIEUKH",
     "2 RIEUL-MIEUM-HIEUH;2 RIEUL-PIEUP-TIKEUT;2 RIEUL-PIEUP-PHIEUPH;2 RIEUL-YESIEUNG",
     "2 RIEUL-YEORINHIEUH-HIEUH;2 KAPYEOUNRIEUL;2 MIEUM-NIEUN;2 MIEUM-SSANGNIEUN;2 SSANGMIEUM",
     "2 MIEUM-PIEUP-SIOS;2 MIEUM-CIEUC;2 PIEUP-TIKEUT;2 PIEUP-RIEUL-PHIEUPH;2 PIEUP-MIEUM",
     "2 SSANGPIEUP;2 PIEUP-SIOS-TIKEUT;2 PIEUP-CIEUC;2 PIEUP-CHIEUCH;2 SIOS-MIEUM",
     "2 SIOS-KAPYEOUNPIEUP;2 SSANGSIOS-KIYEOK;2 SSANGSIOS-TIKEUT;2 SIOS-PANSIOS;2 SIOS-CIEUC",
     "2 SIOS-CHIEUCH;2 SIOS-THIEUTH;2 SIOS-HIEUH;2 PANSIOS-PIEUP;2 PANSIOS-KAPYEOUNPIEUP",
     "2 YESIEUNG-MIEUM;2 YESIEUNG-HIEUH;2 CIEUC-PIEUP;2 CIEUC-SSANGPIEUP;2 SSANGCIEUC",
     "2 PHIEUPH-SIOS;2 PHIEUPH-THIEUTH"]),
   (64256, ["LATIN SMALL LIGATURE FF;3 FI;3 FL;3 FFI;3 FFL;3 LONG S T;3 ST"]),
   (64275, ["ARMENIAN SMALL LIGATURE MEN NOW;4 ECH;4 INI;3 VEW NOW;3 MEN XEH"]),
   (64285,
    ["HEBREW LETTER YOD WITH HIRIQ;1 POINT JUDEO-SPANISH VARIKA",
     "1 LIGATURE YIDDISH YOD YOD PATAH;1 LETTER ALTERNATIVE AYIN;2 WIDE ALEF;3 DALET;3 HE",
     "3 KAF;3 LAMED;3 FINAL MEM;3 RESH;3 TAV;2 ALTERNATIVE PLUS SIGN;2 SHIN WITH SHIN DOT",
     "4 SIN DOT;4 DAGESH AND SHIN DOT;6 SIN DOT;2 ALEF WITH PATAH;4 QAMATS;4 MAPIQ",
     "2 BET WITH DAGESH;2 GIMEL WITH DAGESH;2 DALET WITH DAGESH;2 HE WITH MAPIQ",
     "2 VAV WITH DAGESH;2 ZAYIN WITH DAGESH"]),
   (64312,
    ["HEBREW LETTER TET WITH DAGESH;2 YOD WITH DAGESH;2 FINAL KAF WITH DAGESH",
     "2 KAF WITH DAGESH;2 LAMED WITH DAGESH"]),
   (64318, ["HEBREW LETTER MEM WITH DAGESH"]),
   (64320, ["HEBREW LETTER NUN WITH DAGESH;2 SAMEKH WITH DAGESH"]),
   (64323, ["HEBREW LETTER FINAL PE WITH DAGESH;2 PE WITH DAGESH"]),
   (64326,
    ["HEBREW LETTER TSADI WITH DAGESH;2 QOF WITH DAGESH;2 RESH WITH DAGESH;2 SHIN WITH DAGESH",
     "2 TAV WITH DAGESH;2 VAV WITH HOLAM;2 BET WITH RAFE;2 KAF WITH RAFE;2 PE WITH RAFE",
     "1 LIGATURE ALEF LAMED;ARABIC LETTER ALEF WASLA ISOLATED FORM;4 FINAL FORM",
     "2 BEEH ISOLATED FORM;3 FINAL FORM;3 INITIAL FORM;3 MEDIAL FORM;2 PEH ISOLATED FORM",
     "3 FINAL FORM;3 INITIAL FORM;3 MEDIAL FORM;2 BEHEH ISOLATED FORM;3 FINAL FORM",
     "3 INITIAL FORM;3 MEDIAL FORM;2 TTEHEH ISOLATED FORM;3 FINAL FORM;3 INITIAL FORM",
     "3 MEDIAL FORM;2 TEHEH ISOLATED FORM;3 FINAL FORM;3 INITIAL FORM;3 MEDIAL FORM",
     "2 TTEH ISOLATED FORM;3 FINAL FORM;3 INITIAL FORM;3 MEDIAL FORM;2 VEH ISOLATED FORM",
     "3 FINAL FORM;3 INITIAL FORM;3 MEDIAL FORM;2 PEHEH ISOLATED FORM;3 FINAL FORM",
     "3 INITIAL FORM;3 MEDIAL FORM;2 DYEH ISOLATED FORM;3 FINAL FORM;3 INITIAL FORM",
     "3 MEDIAL FORM;2 NYEH ISOLATED FORM;3 FINAL FORM;3 INITIAL FORM;3 MEDIAL FORM",
     "2 TCHEH ISOLATED FORM;3 FINAL FORM;3 INITIAL FORM;3 MEDIAL FORM;2 TCHEHEH ISOLATED FORM",
     "3 FINAL FORM;3 INITIAL FORM;3 MEDIAL FORM;2 DDAHAL ISOLATED FORM;3 FINAL FORM",
     "2 DAHAL ISOLATED FORM;3 FINAL FORM;2 DUL ISOLATED FORM;3 FINAL FORM;2 DDAL ISOLATED FORM",
     "3 FINAL FORM;2 JEH ISOLATED FORM;3 FINAL FORM;2 RREH ISOLATED FORM;3 FINAL FORM",
     "2 KEHEH ISOLATED FORM;3 FINAL FORM;3 INITIAL FORM;3 MEDIAL FORM;2 GAF ISOLATED FORM",
     "3 FINAL FORM;3 INITIAL FORM;3 MEDIAL FORM;2 GUEH ISOLATED FORM;3 FINAL FORM",
     "3 INITIAL FORM;3 MEDIAL FORM;2 NGOEH ISOLATED FORM;3 FINAL FORM;3 INITIAL FORM",
     "3 MEDIAL FORM;2 NOON GHUNNA ISOLATED FORM;4 FINAL FORM;2 RNOON ISOLATED FORM",
     "3 FINAL FORM;3 INITIAL FORM;3 MEDIAL FORM;2 HEH WITH YEH ABOVE ISOLATED FORM",
     "6 FINAL FORM;3 GOAL ISOLATED FORM;4 FINAL FORM;4 INITIAL FORM;4 MEDIAL FORM",
     "3 DOACHASHMEE ISOLATED FORM;4 FINAL FORM;4 INITIAL FORM;4 MEDIAL FORM",
     "2 YEH BARREE ISOLATED FORM;4 FINAL FORM;4 WITH HAMZA ABOVE ISOLATED FORM;7 FINAL FORM",
     "1 SYMBOL DOT ABOVE;3 BELOW;2 TWO DOTS ABOVE;4 BELOW;2 THREE DOTS ABOVE;4 BELOW",
     "4 POINTING DOWNWARDS ABOVE;6 BELOW;2 FOUR DOTS ABOVE;4 BELOW;2 DOUBLE VERTICAL BAR BELOW",
     "2 TWO DOTS VERTICALLY ABOVE;5 BELOW;2 RING;2 SMALL TAH ABOVE;4 BELOW;2 WASLA ABOVE"]),
   (64467,
    ["ARABIC LETTER NG ISOLATED FORM;3 FINAL FORM;3 INITIAL FORM;3 MEDIAL FORM",
     "2 U ISOLATED FORM;3 FINAL FORM;2 OE ISOLATED FORM;3 FINAL FORM;2 YU ISOLATED FORM",
     "3 FINAL FORM;2 U WITH HAMZA ABOVE ISOLATED FORM;2 VE ISOLATED FORM;3 FINAL FORM",
     "2 KIRGHIZ OE ISOLATED FORM;4 FINAL FORM;3 YU ISOLATED FORM;4 FINAL FORM",
     "2 E ISOLATED FORM;3 FINAL FORM;3 INITIAL FORM;3 MEDIAL FORM",
     "2 UIGHUR KAZAKH KIRGHIZ ALEF MAKSURA INITIAL FORM;7 MEDIAL FORM",
     "1 LIGATURE YEH WITH HAMZA ABOVE WITH ALEF ISOLATED FORM;8 FINAL FORM;7 AE ISOLATED FORM",
     "8 FINAL FORM;7 WAW ISOLATED FORM;8 FINAL FORM;7 U ISOLATED FORM;8 FINAL FORM",
     "7 OE ISOLATED FORM;8 FINAL FORM;7 YU ISOLATED FORM;8 FINAL FORM;7 E ISOLATED FORM",
     "8 FINAL FORM;8 INITIAL FORM",
     "2 UIGHUR KIRGHIZ YEH WITH HAMZA ABOVE WITH ALEF MAKSURA ISOLATED FORM",
     "9 ALEF MAKSURA FINAL FORM;9 ALEF MAKSURA INITIAL FORM;1 LETTER FARSI YEH ISOLATED FORM",
     "4 FINAL FORM;4 INITIAL FORM;4 MEDIAL FORM",
     "1 LIGATURE YEH WITH HAMZA ABOVE WITH JEEM ISOLATED FORM;7 HAH ISOLATED FORM",
     "7 MEEM ISOLATED FORM;7 ALEF MAKSURA ISOLATED FORM;7 YEH ISOLATED FORM",
     "2 BEH WITH JEEM ISOLATED FORM;4 HAH ISOLATED FORM;4 KHAH ISOLATED FORM",
     "4 MEEM ISOLATED FORM;4 ALEF MAKSURA ISOLATED FORM;4 YEH ISOLATED FORM",
     "2 TEH WITH JEEM ISOLATED FORM;4 HAH ISOLATED FORM;4 KHAH ISOLATED FORM",
     "4 MEEM ISOLATED FORM;4 ALEF MAKSURA ISOLATED FORM;4 YEH ISOLATED FORM",
     "2 THEH WITH JEEM ISOLATED FORM;4 MEEM ISOLATED FORM;4 ALEF MAKSURA ISOLATED FORM",
     "4 YEH ISOLATED FORM;2 JEEM WITH HAH ISOLATED FORM;4 MEEM ISOLATED FORM",
     "2 HAH WITH JEEM ISOLATED FORM;4 MEEM ISOLATED FORM;2 KHAH WITH JEEM ISOLATED FORM",
     "4 HAH ISOLATED FORM;4 MEEM ISOLATED FORM;2 SEEN WITH JEEM ISOLATED FORM",
     "4 HAH ISOLATED FORM;4 KHAH ISOLATED FORM;4 MEEM ISOLATED FORM",
     "2 SAD WITH HAH ISOLATED FORM;4 MEEM ISOLATED FORM;2 DAD WITH JEEM ISOLATED FORM",
     "4 HAH ISOLATED FORM;4 KHAH ISOLATED FORM;4 MEEM ISOLATED FORM",
     "2 TAH WITH HAH ISOLATED FORM;4 MEEM ISOLATED FORM;2 ZAH WITH MEEM ISOLATED FORM",
     "2 AIN WITH JEEM ISOLATED FORM;4 MEEM ISOLATED FORM;2 GHAIN WITH JEEM ISOLATED FORM",
     "4 MEEM ISOLATED FORM;2 FEH WITH JEEM ISOLATED FORM;4 HAH ISOLATED FORM",
     "4 KHAH ISOLATED FORM;4 MEEM ISOLATED FORM;4 ALEF MAKSURA ISOLATED FORM",
     "4 YEH ISOLATED FORM;2 QAF WITH HAH ISOLATED FORM;4 MEEM ISOLATED FORM",
     "4 ALEF MAKSURA ISOLATED FORM;4 YEH ISOLATED FORM;2 KAF WITH ALEF ISOLATED FORM",
     "4 JEEM ISOLATED FORM;4 HAH ISOLATED FORM;4 KHAH ISOLATED FORM;4 LAM ISOLATED FORM",
     "4 MEEM ISOLATED FORM;4 ALEF MAKSURA ISOLATED FORM;4 YEH ISOLATED FORM",
     "2 LAM WITH JEEM ISOLATED FORM;4 HAH ISOLATED FORM;4 KHAH ISOLATED FORM",
     "4 MEEM ISOLATED FORM;4 ALEF MAKSURA ISOLATED FORM;4 YEH ISOLATED FORM",
     "2 MEEM WITH JEEM ISOLATED FORM;4 HAH ISOLATED FORM;4 KHAH ISOLATED FORM",
     "4 MEEM ISOLATED FORM;4 ALEF MAKSURA ISOLATED FORM;4 YEH ISOLATED FORM",
     "2 NOON WITH JEEM ISOLATED FORM;4 HAH ISOLATED FORM;4 KHAH ISOLATED FORM",
     "4 MEEM ISOLATED FORM;4 ALEF MAKSURA ISOLATED FORM;4 YEH ISOLATED FORM",
     "2 HEH WITH JEEM ISOLATED FORM;4 MEEM ISOLATED FORM;4 ALEF MAKSURA ISOLATED FORM",
     "4 YEH ISOLATED FORM;2 YEH WITH JEEM ISOLATED FORM;4 HAH ISOLATED FORM",
     "4 KHAH ISOLATED FORM;4 MEEM ISOLATED FORM;4 ALEF MAKSURA ISOLATED FORM",
     "4 YEH ISOLATED FORM;2 THAL WITH SUPERSCRIPT ALEF ISOLATED FORM",
     "2 REH WITH SUPERSCRIPT ALEF ISOLATED FORM",
     "2 ALEF MAKSURA WITH SUPERSCRIPT ALEF ISOLATED FORM;2 SHADDA WITH DAMMATAN ISOLATED FORM",
     "4 KASRATAN ISOLATED FORM;4 FATHA ISOLATED FORM;4 DAMMA ISOLATED FORM",
     "4 KASRA ISOLATED FORM;4 SUPERSCRIPT ALEF ISOLATED FORM",
     "2 YEH WITH HAMZA ABOVE WITH REH FINAL FORM;7 ZAIN FINAL FORM;7 MEEM FINAL FORM",
     "7 NOON FINAL FORM;7 ALEF MAKSURA FINAL FORM;7 YEH FINAL FORM;2 BEH WITH REH FINAL FORM",
     "4 ZAIN FINAL FORM;4 MEEM FINAL FORM;4 NOON FINAL FORM;4 ALEF MAKSURA FINAL FORM",
     "4 YEH FINAL FORM;2 TEH WITH REH FINAL FORM;4 ZAIN FINAL FORM;4 MEEM FINAL FORM",
     "4 NOON FINAL FORM;4 ALEF MAKSURA FINAL FORM;4 YEH FINAL FORM;2 THEH WITH REH FINAL FORM",
     "4 ZAIN FINAL FORM;4 MEEM FINAL FORM;4 NOON FINAL FORM;4 ALEF MAKSURA FINAL FORM",
     "4 YEH FINAL FORM;2 FEH WITH ALEF MAKSURA FINAL FORM;4 YEH FINAL FORM",
     "2 QAF WITH ALEF MAKSURA FINAL FORM;4 YEH FINAL FORM;2 KAF WITH ALEF FINAL FORM",
     "4 LAM FINAL FORM;4 MEEM FINAL FORM;4 ALEF MAKSURA FINAL FORM;4 YEH FINAL FORM",
     "2 LAM WITH MEEM FINAL FORM;4 ALEF MAKSURA FINAL FORM;4 YEH FINAL FORM",
     "2 MEEM WITH ALEF FINAL FORM;4 MEEM FINAL FORM;2 NOON WITH REH FINAL FORM",
     "4 ZAIN FINAL FORM;4 MEEM FINAL FORM;4 NOON FINAL FORM;4 ALEF MAKSURA FINAL FORM",
     "4 YEH FINAL FORM;2 ALEF MAKSURA WITH SUPERSCRIPT ALEF FINAL FORM",
     "2 YEH WITH REH FINAL FORM;4 ZAIN FINAL FORM;4 MEEM FINAL FORM;4 NOON FINAL FORM",
     "4 ALEF MAKSURA FINAL FORM;4 YEH FINAL FORM;4 HAMZA ABOVE WITH JEEM INITIAL FORM",
     "7 HAH INITIAL FORM;7 KHAH INITIAL FORM;7 MEEM INITIAL FORM;7 HEH INITIAL FORM",
     "2 BEH WITH JEEM INITIAL FORM;4 HAH INITIAL FORM;4 KHAH INITIAL FORM;4 MEEM INITIAL FORM",
     "4 HEH INITIAL FORM;2 TEH WITH JEEM INITIAL FORM;4 HAH INITIAL FORM;4 KHAH INITIAL FORM",
     "4 MEEM INITIAL FORM;4 HEH INITIAL FORM;2 THEH WITH MEEM INITIAL FORM",
     "2 JEEM WITH HAH INITIAL FORM;4 MEEM INITIAL FORM;2 HAH WITH JEEM INITIAL FORM",
     "4 MEEM INITIAL FORM;2 KHAH WITH JEEM INITIAL FORM;4 MEEM INITIAL FORM",
     "2 SEEN WITH JEEM INITIAL FORM;4 HAH INITIAL FORM;4 KHAH INITIAL FORM;4 MEEM INITIAL FORM",
     "2 SAD WITH HAH INITIAL FORM;4 KHAH INITIAL FORM;4 MEEM INITIAL FORM",
     "2 DAD WITH JEEM INITIAL FORM;4 HAH INITIAL FORM;4 KHAH INITIAL FORM;4 MEEM INITIAL FORM",
     "2 TAH WITH HAH INITIAL FORM;2 ZAH WITH MEEM INITIAL FORM;2 AIN WITH JEEM INITIAL FORM",
     "4 MEEM INITIAL FORM;2 GHAIN WITH JEEM INITIAL FORM;4 MEEM INITIAL FORM",
     "2 FEH WITH JEEM INITIAL FORM;4 HAH INITIAL FORM;4 KHAH INITIAL FORM;4 MEEM INITIAL FORM",
     "2 QAF WITH HAH INITIAL FORM;4 MEEM INITIAL FORM;2 KAF WITH JEEM INITIAL FORM",
     "4 HAH INITIAL FORM;4 KHAH INITIAL FORM;4 LAM INITIAL FORM;4 MEEM INITIAL FORM",
     "2 LAM WITH JEEM INITIAL FORM;4 HAH INITIAL FORM;4 KHAH INITIAL FORM;4 MEEM INITIAL FORM",
     "4 HEH INITIAL FORM;2 MEEM WITH JEEM INITIAL FORM;4 HAH INITIAL FORM;4 KHAH INITIAL FORM",
     "4 MEEM INITIAL FORM;2 NOON WITH JEEM INITIAL FORM;4 HAH INITIAL FORM;4 KHAH INITIAL FORM",
     "4 MEEM INITIAL FORM;4 HEH INITIAL FORM;2 HEH WITH JEEM INITIAL FORM;4 MEEM INITIAL FORM",
     "4 SUPERSCRIPT ALEF INITIAL FORM;2 YEH WITH JEEM INITIAL FORM;4 HAH INITIAL FORM",
     "4 KHAH INITIAL FORM;4 MEEM INITIAL FORM;4 HEH INITIAL FORM",
     "4 HAMZA ABOVE WITH MEEM MEDIAL FORM;7 HEH MEDIAL FORM;2 BEH WITH MEEM MEDIAL FORM",
     "4 HEH MEDIAL FORM;2 TEH WITH MEEM MEDIAL FORM;4 HEH MEDIAL FORM",
     "2 THEH WITH MEEM MEDIAL FORM;4 HEH MEDIAL FORM;2 SEEN WITH MEEM MEDIAL FORM",
     "4 HEH MEDIAL FORM;2 SHEEN WITH MEEM MEDIAL FORM;4 HEH MEDIAL FORM",
     "2 KAF WITH LAM MEDIAL FORM;4 MEEM MEDIAL FORM;2 LAM WITH MEEM MEDIAL FORM",
     "2 NOON WITH MEEM MEDIAL FORM;4 HEH MEDIAL FORM;2 YEH WITH MEEM MEDIAL FORM",
     "4 HEH MEDIAL FORM;2 SHADDA WITH FATHA MEDIAL FORM;4 DAMMA MEDIAL FORM",
     "4 KASRA MEDIAL FORM;2 TAH WITH ALEF MAKSURA ISOLATED FORM;4 YEH ISOLATED FORM",
     "2 AIN WITH ALEF MAKSURA ISOLATED FORM;4 YEH ISOLATED FORM",
     "2 GHAIN WITH ALEF MAKSURA ISOLATED FORM;4 YEH ISOLATED FORM",
     "2 SEEN WITH ALEF MAKSURA ISOLATED FORM;4 YEH ISOLATED FORM",
     "2 SHEEN WITH ALEF MAKSURA ISOLATED FORM;4 YEH ISOLATED FORM",
     "2 HAH WITH ALEF MAKSURA ISOLATED FORM;4 YEH ISOLATED FORM",
     "2 JEEM WITH ALEF MAKSURA ISOLATED FORM;4 YEH ISOLATED FORM",
     "2 KHAH WITH ALEF MAKSURA ISOLATED FORM;4 YEH ISOLATED FORM",
     "2 SAD WITH ALEF MAKSURA ISOLATED FORM;4 YEH ISOLATED FORM",
     "2 DAD WITH ALEF MAKSURA ISOLATED FORM;4 YEH ISOLATED FORM",
     "2 SHEEN WITH JEEM ISOLATED FORM;4 HAH ISOLATED FORM;4 KHAH ISOLATED FORM",
     "4 MEEM ISOLATED FORM;4 REH ISOLATED FORM;2 SEEN WITH REH ISOLATED FORM",
     "2 SAD WITH REH ISOLATED FORM;2 DAD WITH REH ISOLATED FORM",
     "2 TAH WITH ALEF MAKSURA FINAL FORM;4 YEH FINAL FORM;2 AIN WITH ALEF MAKSURA FINAL FORM",
     "4 YEH FINAL FORM;2 GHAIN WITH ALEF MAKSURA FINAL FORM;4 YEH FINAL FORM",
     "2 SEEN WITH ALEF MAKSURA FINAL FORM;4 YEH FINAL FORM",
     "2 SHEEN WITH ALEF MAKSURA FINAL FORM;4 YEH FINAL FORM;2 HAH WITH ALEF MAKSURA FINAL FORM",
     "4 YEH FINAL FORM;2 JEEM WITH ALEF MAKSURA FINAL FORM;4 YEH FINAL FORM",
     "2 KHAH WITH ALEF MAKSURA FINAL FORM;4 YEH FINAL FORM;2 SAD WITH ALEF MAKSURA FINAL FORM",
     "4 YEH FINAL FORM;2 DAD WITH ALEF MAKSURA FINAL FORM;4 YEH FINAL FORM",
     "2 SHEEN WITH JEEM FINAL FORM;4 HAH FINAL FORM;4 KHAH FINAL FORM;4 MEEM FINAL FORM",
     "4 REH FINAL FORM;2 SEEN WITH REH FINAL FORM;2 SAD WITH REH FINAL FORM",
     "2 DAD WITH REH FINAL FORM;2 SHEEN WITH JEEM INITIAL FORM;4 HAH INITIAL FORM",
     "4 KHAH INITIAL FORM;4 MEEM INITIAL FORM;2 SEEN WITH HEH INITIAL FORM",
     "2 SHEEN WITH HEH INITIAL FORM;2 TAH WITH MEEM INITIAL FORM;2 SEEN WITH JEEM MEDIAL FORM",
     "4 HAH MEDIAL FORM;4 KHAH MEDIAL FORM;2 SHEEN WITH JEEM MEDIAL FORM;4 HAH MEDIAL FORM",
     "4 KHAH MEDIAL FORM;2 TAH WITH MEEM MEDIAL FORM;2 ZAH WITH MEEM MEDIAL FORM",
     "2 ALEF WITH FATHATAN FINAL FORM;5 ISOLATED FORM;ORNATE LEFT PARENTHESIS",
     "1 RIGHT PARENTHESIS;ARABIC LIGATURE RAHIMAHU ALLAAH;2 RADI ALLAAHU ANH;4 ANHAA;4 ANHUM",
     "4 ANHUMAA;4 ANHUNNA;2 SALLALLAAHU ALAYHI WA-AALIH;2 ALAYHI AS-SALAAM;2 ALAYHIM AS-SALAAM",
     "2 ALAYHIMAA AS-SALAAM;2 ALAYHI AS-SALAATU WAS-SALAAM;2 QUDDISA SIRRAH",
     "2 SALLALLAHU ALAYHI WAAALIHEE WA-SALLAM;2 ALAYHAA AS-SALAAM;2 TABAARAKA WA-TAAALAA",
     "2 RAHIMAHUM ALLAAH;2 TEH WITH JEEM WITH MEEM INITIAL FORM;4 HAH WITH JEEM FINAL FORM",
     "7 INITIAL FORM;6 MEEM INITIAL FORM;4 KHAH WITH MEEM INITIAL FORM",
     "4 MEEM WITH JEEM INITIAL FORM;6 HAH INITIAL FORM;6 KHAH INITIAL FORM",
     "2 JEEM WITH MEEM WITH HAH FINAL FORM;7 INITIAL FORM;2 HAH WITH MEEM WITH YEH FINAL FORM",
     "6 ALEF MAKSURA FINAL FORM;2 SEEN WITH HAH WITH JEEM INITIAL FORM",
     "4 JEEM WITH HAH INITIAL FORM;6 ALEF MAKSURA FINAL FORM;4 MEEM WITH HAH FINAL FORM",
     "7 INITIAL FORM;6 JEEM INITIAL FORM;6 MEEM FINAL FORM;7 INITIAL FORM",
     "2 SAD WITH HAH WITH HAH FINAL FORM;7 INITIAL FORM;4 MEEM WITH MEEM FINAL FORM",
     "2 SHEEN WITH HAH WITH MEEM FINAL FORM;7 INITIAL FORM;4 JEEM WITH YEH FINAL FORM",
     "4 MEEM WITH KHAH FINAL FORM;7 INITIAL FORM;6 MEEM FINAL FORM;7 INITIAL FORM",
     "2 DAD WITH HAH WITH ALEF MAKSURA FINAL FORM;4 KHAH WITH MEEM FINAL FORM;7 INITIAL FORM",
     "2 TAH WITH MEEM WITH HAH FINAL FORM;7 INITIAL FORM;6 MEEM INITIAL FORM;6 YEH FINAL FORM",
     "2 AIN WITH JEEM WITH MEEM FINAL FORM;4 MEEM WITH MEEM FINAL FORM;7 INITIAL FORM",
     "6 ALEF MAKSURA FINAL FORM;2 GHAIN WITH MEEM WITH MEEM FINAL FORM;6 YEH FINAL FORM",
     "6 ALEF MAKSURA FINAL FORM;2 FEH WITH KHAH WITH MEEM FINAL FORM;7 INITIAL FORM",
     "2 QAF WITH MEEM WITH HAH FINAL FORM;6 MEEM FINAL FORM",
     "2 LAM WITH HAH WITH MEEM FINAL FORM;6 YEH FINAL FORM;6 ALEF MAKSURA FINAL FORM",
     "4 JEEM WITH JEEM INITIAL FORM;7 FINAL FORM;4 KHAH WITH MEEM FINAL FORM;7 INITIAL FORM",
     "4 MEEM WITH HAH FINAL FORM;7 INITIAL FORM;2 MEEM WITH HAH WITH JEEM INITIAL FORM",
     "6 MEEM INITIAL FORM;6 YEH FINAL FORM;4 JEEM WITH HAH INITIAL FORM;6 MEEM INITIAL FORM",
     "4 KHAH WITH JEEM INITIAL FORM;6 MEEM INITIAL FORM"]),
   (64914,
    ["ARABIC LIGATURE MEEM WITH JEEM WITH KHAH INITIAL FORM",
     "2 HEH WITH MEEM WITH JEEM INITIAL FORM;6 MEEM INITIAL FORM",
     "2 NOON WITH HAH WITH MEEM INITIAL FORM;6 ALEF MAKSURA FINAL FORM",
     "4 JEEM WITH MEEM FINAL FORM;7 INITIAL FORM;6 ALEF MAKSURA FINAL FORM",
     "4 MEEM WITH YEH FINAL FORM;6 ALEF MAKSURA FINAL FORM",
     "2 YEH WITH MEEM WITH MEEM FINAL FORM;7 INITIAL FORM;2 BEH WITH KHAH WITH YEH FINAL FORM",
     "2 TEH WITH JEEM WITH YEH FINAL FORM;6 ALEF MAKSURA FINAL FORM;4 KHAH WITH YEH FINAL FORM",
     "6 ALEF MAKSURA FINAL FORM;4 MEEM WITH YEH FINAL FORM;6 ALEF MAKSURA FINAL FORM",
     "2 JEEM WITH MEEM WITH YEH FINAL FORM;4 HAH WITH ALEF MAKSURA FINAL FORM",
     "4 MEEM WITH ALEF MAKSURA FINAL FORM;2 SEEN WITH KHAH WITH ALEF MAKSURA FINAL FORM",
     "2 SAD WITH HAH WITH YEH FINAL FORM;2 SHEEN WITH HAH WITH YEH FINAL FORM",
     "2 DAD WITH HAH WITH YEH FINAL FORM;2 LAM WITH JEEM WITH YEH FINAL FORM",
     "4 MEEM WITH YEH FINAL FORM;2 YEH WITH HAH WITH YEH FINAL FORM;4 JEEM WITH YEH FINAL FORM",
     "4 MEEM WITH YEH FINAL FORM;2 MEEM WITH MEEM WITH YEH FINAL FORM",
     "2 QAF WITH MEEM WITH YEH FINAL FORM;2 NOON WITH HAH WITH YEH FINAL FORM",
     "2 QAF WITH MEEM WITH HAH INITIAL FORM;2 LAM WITH HAH WITH MEEM INITIAL FORM",
     "2 AIN WITH MEEM WITH YEH FINAL FORM;2 KAF WITH MEEM WITH YEH FINAL FORM",
     "2 NOON WITH JEEM WITH HAH INITIAL FORM;2 MEEM WITH KHAH WITH YEH FINAL FORM",
     "2 LAM WITH JEEM WITH MEEM INITIAL FORM;2 KAF WITH MEEM WITH MEEM FINAL FORM",
     "2 LAM WITH JEEM WITH MEEM FINAL FORM;2 NOON WITH JEEM WITH HAH FINAL FORM",
     "2 JEEM WITH HAH WITH YEH FINAL FORM;2 HAH WITH JEEM WITH YEH FINAL FORM",
     "2 MEEM WITH JEEM WITH YEH FINAL FORM;2 FEH WITH MEEM WITH YEH FINAL FORM",
     "2 BEH WITH HAH WITH YEH FINAL FORM;2 KAF WITH MEEM WITH MEEM INITIAL FORM",
     "2 AIN WITH JEEM WITH MEEM INITIAL FORM;2 SAD WITH MEEM WITH MEEM INITIAL FORM",
     "2 SEEN WITH KHAH WITH YEH FINAL FORM;2 NOON WITH JEEM WITH YEH FINAL FORM"]),
   (64975, ["ARABIC LIGATURE SALAAMUHU ALAYNAA"]),
   (65008,
    ["ARABIC LIGATURE SALLA USED AS KORANIC STOP SIGN ISOLATED FORM",
     "2 QALA USED AS KORANIC STOP SIGN ISOLATED FORM;2 ALLAH ISOLATED FORM",
     "2 AKBAR ISOLATED FORM;2 MOHAMMAD ISOLATED FORM;2 SALAM ISOLATED FORM",
     "2 RASOUL ISOLATED FORM;2 ALAYHE ISOLATED FORM;2 WASALLAM ISOLATED FORM",
     "2 SALLA ISOLATED FORM;2 SALLALLAHOU ALAYHE WASALLAM;2 JALLAJALALOUHOU;RIAL SIGN",
     "ARABIC LIGATURE BISMILLAH AR-RAHMAN AR-RAHEEM;2 SUBHAANAHU WA TAAALAA;2 AZZA WA JALL",
     "VARIATION SELECTOR-1;1 SELECTOR-2;1 SELECTOR-3;1 SELECTOR-4;1 SELECTOR-5;1 SELECTOR-6",
     "1 SELECTOR-7;1 SELECTOR-8;1 SELECTOR-9;1 SELECTOR-10;1 SELECTOR-11;1 SELECTOR-12",
     "1 SELECTOR-13;1 SELECTOR-14;1 SELECTOR-15;1 SELECTOR-16",
     "PRESENTATION FORM FOR VERTICAL COMMA;4 IDEOGRAPHIC COMMA;5 FULL STOP;4 COLON;4 SEMICOLON",
     "4 EXCLAMATION MARK;4 QUESTION MARK;4 LEFT WHITE LENTICULAR BRACKET",
     "4 RIGHT WHITE LENTICULAR BRAKCET;4 HORIZONTAL ELLIPSIS"]),
   (65056,
    ["COMBINING LIGATURE LEFT HALF;2 RIGHT HALF;1 DOUBLE TILDE LEFT HALF;3 RIGHT HALF",
     "1 MACRON LEFT HALF;2 RIGHT HALF;1 CONJOINING MACRON;1 LIGATURE LEFT HALF BELOW",
     "2 RIGHT HALF BELOW;1 TILDE LEFT HALF BELOW;2 RIGHT HALF BELOW;1 MACRON LEFT HALF BELOW",
     "2 RIGHT HALF BELOW;1 CONJOINING MACRON BELOW;1 CYRILLIC TITLO LEFT HALF;3 RIGHT HALF",
     "PRESENTATION FORM FOR VERTICAL TWO DOT LEADER;4 EM DASH;4 EN DASH;4 LOW LINE",
     "4 WAVY LOW LINE;4 LEFT PARENTHESIS;4 RIGHT PARENTHESIS;4 LEFT CURLY BRACKET",
     "4 RIGHT CURLY BRACKET;4 LEFT TORTOISE SHELL BRACKET;4 RIGHT TORTOISE SHELL BRACKET",
     "4 LEFT BLACK LENTICULAR BRACKET;4 RIGHT BLACK LENTICULAR BRACKET",
     "4 LEFT DOUBLE ANGLE BRACKET;4 RIGHT DOUBLE ANGLE BRACKET;4 LEFT ANGLE BRACKET",
     "4 RIGHT ANGLE BRACKET;4 LEFT CORNER BRACKET;4 RIGHT CORNER BRACKET",
     "4 LEFT WHITE CORNER BRACKET;4 RIGHT WHITE CORNER BRACKET;SESAME DOT;WHITE SESAME DOT",
     "PRESENTATION FORM FOR VERTICAL LEFT SQUARE BRACKET;4 RIGHT SQUARE BRACKET",
     "DASHED OVERLINE;CENTRELINE OVERLINE;WAVY OVERLINE;DOUBLE WAVY OVERLINE;DASHED LOW LINE",
     "CENTRELINE LOW LINE;WAVY LOW LINE;SMALL COMMA;1 IDEOGRAPHIC COMMA;1 FULL STOP"]),
   (65108,
    ["SMALL SEMICOLON;1 COLON;1 QUESTION MARK;1 EXCLAMATION MARK;1 EM DASH;1 LEFT PARENTHESIS",
     "1 RIGHT PARENTHESIS;1 LEFT CURLY BRACKET;1 RIGHT CURLY BRACKET",
     "1 LEFT TORTOISE SHELL BRACKET;1 RIGHT TORTOISE SHELL BRACKET;1 NUMBER SIGN;1 AMPERSAND",
     "1 ASTERISK;1 PLUS SIGN;1 HYPHEN-MINUS;1 LESS-THAN SIGN;1 GREATER-THAN SIGN;1 EQUALS SIGN"]),
   (65128, ["SMALL REVERSE SOLIDUS;1 DOLLAR SIGN;1 PERCENT SIGN;1 COMMERCIAL AT"]),
   (65136,
    ["ARABIC FATHATAN ISOLATED FORM;1 TATWEEL WITH FATHATAN ABOVE;1 DAMMATAN ISOLATED FORM",
     "1 TAIL FRAGMENT;1 KASRATAN ISOLATED FORM"]),
   (65142,
    ["ARABIC FATHA ISOLATED FORM;2 MEDIAL FORM;1 DAMMA ISOLATED FORM;2 MEDIAL FORM",
     "1 KASRA ISOLATED FORM;2 MEDIAL FORM;1 SHADDA ISOLATED FORM;2 MEDIAL FORM",
     "1 SUKUN ISOLATED FORM;2 MEDIAL FORM;1 LETTER HAMZA ISOLATED FORM",
     "2 ALEF WITH MADDA ABOVE ISOLATED FORM;6 FINAL FORM;4 HAMZA ABOVE ISOLATED FORM",
     "6 FINAL FORM;2 WAW WITH HAMZA ABOVE ISOLATED FORM;6 FINAL FORM",
     "2 ALEF WITH HAMZA BELOW ISOLATED FORM;6 FINAL FORM;2 YEH WITH HAMZA ABOVE ISOLATED FORM",
     "6 FINAL FORM;6 INITIAL FORM;6 MEDIAL FORM;2 ALEF ISOLATED FORM;3 FINAL FORM",
     "2 BEH ISOLATED FORM;3 FINAL FORM;3 INITIAL FORM;3 MEDIAL FORM",
     "2 TEH MARBUTA ISOLATED FORM;4 FINAL FORM;3 ISOLATED FORM;3 FINAL FORM;3 INITIAL FORM",
     "3 MEDIAL FORM;2 THEH ISOLATED FORM;3 FINAL FORM;3 INITIAL FORM;3 MEDIAL FORM",
     "2 JEEM ISOLATED FORM;3 FINAL FORM;3 INITIAL FORM;3 MEDIAL FORM;2 HAH ISOLATED FORM",
     "3 FINAL FORM;3 INITIAL FORM;3 MEDIAL FORM;2 KHAH ISOLATED FORM;3 FINAL FORM",
     "3 INITIAL FORM;3 MEDIAL FORM;2 DAL ISOLATED FORM;3 FINAL FORM;2 THAL ISOLATED FORM",
     "3 FINAL FORM;2 REH ISOLATED FORM;3 FINAL FORM;2 ZAIN ISOLATED FORM;3 FINAL FORM",
     "2 SEEN ISOLATED FORM;3 FINAL FORM;3 INITIAL FORM;3 MEDIAL FORM;2 SHEEN ISOLATED FORM",
     "3 FINAL FORM;3 INITIAL FORM;3 MEDIAL FORM;2 SAD ISOLATED FORM;3 FINAL FORM",
     "3 INITIAL FORM;3 MEDIAL FORM;2 DAD ISOLATED FORM;3 FINAL FORM;3 INITIAL FORM",
     "3 MEDIAL FORM;2 TAH ISOLATED FORM;3 FINAL FORM;3 INITIAL FORM;3 MEDIAL FORM",
     "2 ZAH ISOLATED FORM;3 FINAL FORM;3 INITIAL FORM;3 MEDIAL FORM;2 AIN ISOLATED FORM",
     "3 FINAL FORM;3 INITIAL FORM;3 MEDIAL FORM;2 GHAIN ISOLATED FORM;3 FINAL FORM",
     "3 INITIAL FORM;3 MEDIAL FORM;2 FEH ISOLATED FORM;3 FINAL FORM;3 INITIAL FORM",
     "3 MEDIAL FORM;2 QAF ISOLATED FORM;3 FINAL FORM;3 INITIAL FORM;3 MEDIAL FORM",
     "2 KAF ISOLATED FORM;3 FINAL FORM;3 INITIAL FORM;3 MEDIAL FORM;2 LAM ISOLATED FORM",
     "3 FINAL FORM;3 INITIAL FORM;3 MEDIAL FORM;2 MEEM ISOLATED FORM;3 FINAL FORM",
     "3 INITIAL FORM;3 MEDIAL FORM;2 NOON ISOLATED FORM;3 FINAL FORM;3 INITIAL FORM",
     "3 MEDIAL FORM;2 HEH ISOLATED FORM;3 FINAL FORM;3 INITIAL FORM;3 MEDIAL FORM",
     "2 WAW ISOLATED FORM;3 FINAL FORM;2 ALEF MAKSURA ISOLATED FORM;4 FINAL FORM",
     "2 YEH ISOLATED FORM;3 FINAL FORM;3 INITIAL FORM;3 MEDIAL FORM",
     "1 LIGATURE LAM WITH ALEF WITH MADDA ABOVE ISOLATED FORM;8 FINAL FORM",
     "6 HAMZA ABOVE ISOLATED FORM;8 FINAL FORM;7 BELOW ISOLATED FORM;8 FINAL FORM",
     "5 ISOLATED FORM;5 FINAL FORM"]),
   (65279, ["ZERO WIDTH NO-BREAK SPACE"]),
   (65281,
    ["FULLWIDTH EXCLAMATION MARK;1 QUOTATION MARK;1 NUMBER SIGN;1 DOLLAR SIGN;1 PERCENT SIGN",
     "1 AMPERSAND;1 APOSTROPHE;1 LEFT PARENTHESIS;1 RIGHT PARENTHESIS;1 ASTERISK;1 PLUS SIGN",
     "1 COMMA;1 HYPHEN-MINUS;1 FULL STOP;1 SOLIDUS;1 DIGIT ZERO;2 ONE;2 TWO;2 THREE;2 FOUR",
     "2 FIVE;2 SIX;2 SEVEN;2 EIGHT;2 NINE;1 COLON;1 SEMICOLON;1 LESS-THAN SIGN;1 EQUALS SIGN",
     "1 GREATER-THAN SIGN;1 QUESTION MARK;1 COMMERCIAL AT;1 LATIN CAPITAL LETTER A;4 B;4 C;4 D",
     "4 E;4 F;4 G;4 H;4 I;4 J;4 K;4 L;4 M;4 N;4 O;4 P;4 Q;4 R;4 S;4 T;4 U;4 V;4 W;4 X;4 Y;4 Z",
     "1 LEFT SQUARE BRACKET;1 REVERSE SOLIDUS;1 RIGHT SQUARE BRACKET;1 CIRCUMFLEX ACCENT",
     "1 LOW LINE;1 GRAVE ACCENT;1 LATIN SMALL LETTER A;4 B;4 C;4 D;4 E;4 F;4 G;4 H;4 I;4 J;4 K",
     "4 L;4 M;4 N;4 O;4 P;4 Q;4 R;4 S;4 T;4 U;4 V;4 W;4 X;4 Y;4 Z;1 LEFT CURLY BRACKET",
     "1 VERTICAL LINE;1 RIGHT CURLY BRACKET;1 TILDE;1 LEFT WHITE PARENTHESIS",
     "1 RIGHT WHITE PARENTHESIS;HALFWIDTH IDEOGRAPHIC FULL STOP;1 LEFT CORNER BRACKET",
     "1 RIGHT CORNER BRACKET;1 IDEOGRAPHIC COMMA;1 KATAKANA MIDDLE DOT;2 LETTER WO;3 SMALL A",
     "4 I;4 U;4 E;4 O;4 YA;4 YU;4 YO;4 TU;1 KATAKANA-HIRAGANA PROLONGED SOUND MARK",
     "1 KATAKANA LETTER A;3 I;3 U;3 E;3 O;3 KA;3 KI;3 KU;3 KE;3 KO;3 SA;3 SI;3 SU;3 SE;3 SO",
     "3 TA;3 TI;3 TU;3 TE;3 TO;3 NA;3 NI;3 NU;3 NE;3 NO;3 HA;3 HI;3 HU;3 HE;3 HO;3 MA;3 MI",
     "3 MU;3 ME;3 MO;3 YA;3 YU;3 YO;3 RA;3 RI;3 RU;3 RE;3 RO;3 WA;3 N;2 VOICED SOUND MARK",
     "2 SEMI-VOICED SOUND MARK;1 HANGUL FILLER;2 LETTER KIYEOK;3 SSANGKIYEOK;3 KIYEOK-SIOS",
     "3 NIEUN;3 NIEUN-CIEUC;3 NIEUN-HIEUH;3 TIKEUT;3 SSANGTIKEUT;3 RIEUL;3 RIEUL-KIYEOK",
     "3 RIEUL-MIEUM;3 RIEUL-PIEUP;3 RIEUL-SIOS;3 RIEUL-THIEUTH;3 RIEUL-PHIEUPH;3 RIEUL-HIEUH",
     "3 MIEUM;3 PIEUP;3 SSANGPIEUP;3 PIEUP-SIOS;3 SIOS;3 SSANGSIOS;3 IEUNG;3 CIEUC",
     "3 SSANGCIEUC;3 CHIEUCH;3 KHIEUKH;3 THIEUTH;3 PHIEUPH;3 HIEUH"]),
   (65474, ["HALFWIDTH HANGUL LETTER A;3 AE;3 YA;3 YAE;3 EO;3 E"]),
   (65482, ["HALFWIDTH HANGUL LETTER YEO;3 YE;3 O;3 WA;3 WAE;3 OE"]),
   (65490, ["HALFWIDTH HANGUL LETTER YO;3 U;3 WEO;3 WE;3 WI;3 YU"]),
   (65498, ["HALFWIDTH HANGUL LETTER EU;3 YI;3 I"]),
   (65504,
    ["FULLWIDTH CENT SIGN;1 POUND SIGN;1 NOT SIGN;1 MACRON;1 BROKEN BAR;1 YEN SIGN;1 WON SIGN"]),
   (65512,
    ["HALFWIDTH FORMS LIGHT VERTICAL;1 LEFTWARDS ARROW;1 UPWARDS ARROW;1 RIGHTWARDS ARROW",
     "1 DOWNWARDS ARROW;1 BLACK SQUARE;1 WHITE CIRCLE"]),
   (65529,
    ["INTERLINEAR ANNOTATION ANCHOR;2 SEPARATOR;2 TERMINATOR;OBJECT REPLACEMENT CHARACTER",
     "REPLACEMENT CHARACTER"])]

end SchemaAlgebra.Text.CharacterName
