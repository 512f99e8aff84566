import SchemaAlgebra.Text.CharacterName.Block

/-!
The names of the characters of historic scripts, with code points from 65536 to 90111.
-/

namespace SchemaAlgebra.Text.CharacterName

/-- Names of characters from the code point 65536 to 90111. -/
def historicBlocks : List Block :=
  [(65536,
    ["LINEAR B SYLLABLE B008 A;3 B038 E;3 B028 I;3 B061 O;3 B010 U;3 B001 DA;3 B045 DE",
     "3 B007 DI;3 B014 DO;3 B051 DU;3 B057 JA;3 B046 JE"]),
   (65549,
    ["LINEAR B SYLLABLE B036 JO;3 B065 JU;3 B077 KA;3 B044 KE;3 B067 KI;3 B070 KO;3 B081 KU",
     "3 B080 MA;3 B013 ME;3 B073 MI;3 B015 MO;3 B023 MU;3 B006 NA;3 B024 NE;3 B030 NI",
     "3 B052 NO;3 B055 NU;3 B003 PA;3 B072 PE;3 B039 PI;3 B011 PO;3 B050 PU;3 B016 QA",
     "3 B078 QE;3 B021 QI;3 B032 QO"]),
   (65576,
    ["LINEAR B SYLLABLE B060 RA;3 B027 RE;3 B053 RI;3 B002 RO;3 B026 RU;3 B031 SA;3 B009 SE",
     "3 B041 SI;3 B012 SO;3 B058 SU;3 B059 TA;3 B004 TE;3 B037 TI;3 B005 TO;3 B069 TU",
     "3 B054 WA;3 B075 WE;3 B040 WI;3 B042 WO"]),
   (65596, ["LINEAR B SYLLABLE B017 ZA;3 B074 ZE"]),
   (65599,
    ["LINEAR B SYLLABLE B020 ZO;3 B025 A2;3 B043 A3;3 B085 AU;3 B071 DWE;3 B090 DWO;3 B048 NWA",
     "3 B029 PU2;3 B062 PTE;3 B076 RA2;3 B033 RA3;3 B068 RO2;3 B066 TA2;3 B087 TWE;3 B091 TWO"]),
   (65616,
    ["LINEAR B SYMBOL B018;3 B019;3 B022;3 B034;3 B047;3 B049;3 B056;3 B063;3 B064;3 B079",
     "3 B082;3 B083;3 B086;3 B089"]),
   (65664,
    ["LINEAR B IDEOGRAM B100 MAN;3 B102 WOMAN;3 B104 DEER;3 B105 EQUID;3 B105F MARE",
     "3 B105M STALLION;3 B106F EWE;3 B106M RAM;3 B107F SHE-GOAT;3 B107M HE-GOAT;3 B108F SOW",
     "3 B108M BOAR;3 B109F COW;3 B109M BULL;3 B120 WHEAT;3 B121 BARLEY;3 B122 OLIVE",
     "3 B123 SPICE;3 B125 CYPERUS;2 MONOGRAM B127 KAPO;3 B128 KANAKO;2 IDEOGRAM B130 OIL",
     "3 B131 WINE;3 B132;2 MONOGRAM B133 AREPA;3 B135 MERI;2 IDEOGRAM B140 BRONZE;3 B141 GOLD",
     "3 B142;3 B145 WOOL;3 B146;3 B150;3 B151 HORN;3 B152;3 B153;3 B154;2 MONOGRAM B156 TURO2",
     "2 IDEOGRAM B157;3 B158;3 B159 CLOTH;3 B160;3 B161;3 B162 GARMENT;3 B163 ARMOUR;3 B164",
     "3 B165;3 B166;3 B167;3 B168;3 B169;3 B170;3 B171;3 B172;3 B173 MONTH;3 B174;3 B176 TREE",
     "3 B177;3 B178;3 B179;3 B180;3 B181;3 B182;3 B183;3 B184;3 B185;3 B189;3 B190",
     "3 B191 HELMET;3 B220 FOOTSTOOL;3 B225 BATHTUB;3 B230 SPEAR;3 B231 ARROW;3 B232",
     "3 B233 SWORD;3 B234;3 B236;3 B240 WHEELED CHARIOT;3 B241 CHARIOT;3 B242 CHARIOT FRAME",
     "3 B243 WHEEL;3 B245;3 B246;2 MONOGRAM B247 DIPTE;2 IDEOGRAM B248;3 B249;3 B251;3 B252",
     "3 B253;3 B254 DART;3 B255;3 B256;3 B257;3 B258;3 B259;3 VESSEL B155;4 B200;4 B201;4 B202",
     "4 B203;4 B204;4 B205;4 B206;4 B207;4 B208;4 B209;4 B210;4 B211;4 B212;4 B213;4 B214",
     "4 B215;4 B216;4 B217;4 B218;4 B219;4 B221;4 B222;4 B226;4 B227;4 B228;4 B229;4 B250",
     "4 B305"]),
   (65792, ["AEGEAN WORD SEPARATOR LINE;3 DOT;1 CHECK MARK"]),
   (65799,
    ["AEGEAN NUMBER ONE;2 TWO;2 THREE;2 FOUR;2 FIVE;2 SIX;2 SEVEN;2 EIGHT;2 NINE;2 TEN",
     "2 TWENTY;2 THIRTY;2 FORTY;2 FIFTY;2 SIXTY;2 SEVENTY;2 EIGHTY;2 NINETY;2 ONE HUNDRED",
     "2 TWO HUNDRED;2 THREE HUNDRED;2 FOUR HUNDRED;2 FIVE HUNDRED;2 SIX HUNDRED",
     "2 SEVEN HUNDRED;2 EIGHT HUNDRED;2 NINE HUNDRED;2 ONE THOUSAND;2 TWO THOUSAND",
     "2 THREE THOUSAND;2 FOUR THOUSAND;2 FIVE THOUSAND;2 SIX THOUSAND;2 SEVEN THOUSAND",
     "2 EIGHT THOUSAND;2 NINE THOUSAND;2 TEN THOUSAND;2 TWENTY THOUSAND;2 THIRTY THOUSAND",
     "2 FORTY THOUSAND;2 FIFTY THOUSAND;2 SIXTY THOUSAND;2 SEVENTY THOUSAND;2 EIGHTY THOUSAND",
     "2 NINETY THOUSAND"]),
   (65847,
    ["AEGEAN WEIGHT BASE UNIT;2 FIRST SUBUNIT;2 SECOND SUBUNIT;2 THIRD SUBUNIT",
     "2 FOURTH SUBUNIT;1 DRY MEASURE FIRST SUBUNIT;1 LIQUID MEASURE FIRST SUBUNIT",
     "1 MEASURE SECOND SUBUNIT;2 THIRD SUBUNIT;GREEK ACROPHONIC ATTIC ONE QUARTER;4 HALF",
     "4 DRACHMA;3 FIVE;3 FIFTY;3 FIVE HUNDRED;4 THOUSAND;3 FIFTY THOUSAND;3 FIVE TALENTS",
     "3 TEN TALENTS;3 FIFTY TALENTS;3 ONE HUNDRED TALENTS;3 FIVE HUNDRED TALENTS",
     "3 ONE THOUSAND TALENTS;3 FIVE THOUSAND TALENTS;4 STATERS;3 TEN STATERS;3 FIFTY STATERS",
     "3 ONE HUNDRED STATERS;3 FIVE HUNDRED STATERS;3 ONE THOUSAND STATERS",
     "3 TEN THOUSAND STATERS;3 FIFTY THOUSAND STATERS;3 TEN MNAS;2 HERAEUM ONE PLETHRON",
     "2 THESPIAN ONE;2 HERMIONIAN ONE;2 EPIDAUREAN TWO;2 THESPIAN TWO;2 CYRENAIC TWO DRACHMAS",
     "2 EPIDAUREAN TWO DRACHMAS;2 TROEZENIAN FIVE;3 TEN;4 ALTERNATE FORM;2 HERMIONIAN TEN",
     "2 MESSENIAN TEN;2 THESPIAN TEN;3 THIRTY;2 TROEZENIAN FIFTY;4 ALTERNATE FORM",
     "2 HERMIONIAN FIFTY;2 THESPIAN FIFTY;3 ONE HUNDRED;3 THREE HUNDRED",
     "2 EPIDAUREAN FIVE HUNDRED;2 TROEZENIAN FIVE HUNDRED;2 THESPIAN FIVE HUNDRED",
     "2 CARYSTIAN FIVE HUNDRED;2 NAXIAN FIVE HUNDRED;2 THESPIAN ONE THOUSAND;3 FIVE THOUSAND",
     "2 DELPHIC FIVE MNAS;2 STRATIAN FIFTY MNAS;1 ONE HALF SIGN;4 ALTERNATE FORM",
     "1 TWO THIRDS SIGN;1 THREE QUARTERS SIGN;1 YEAR SIGN;1 TALENT SIGN;1 DRACHMA SIGN",
     "1 OBOL SIGN;1 TWO OBOLS SIGN;1 THREE OBOLS SIGN;1 FOUR OBOLS SIGN;1 FIVE OBOLS SIGN",
     "1 METRETES SIGN;1 KYATHOS BASE SIGN;1 LITRA SIGN;1 OUNKIA SIGN;1 XESTES SIGN",
     "1 ARTABE SIGN;1 AROURA SIGN;1 GRAMMA SIGN;1 TRYBLION BASE SIGN;1 ZERO SIGN",
     "1 ONE QUARTER SIGN;1 SINUSOID SIGN;1 INDICTION SIGN;NOMISMA SIGN"]),
   (65936,
    ["ROMAN SEXTANS SIGN;1 UNCIA SIGN;1 SEMUNCIA SIGN;1 SEXTULA SIGN;1 DIMIDIA SEXTULA SIGN",
     "1 SILIQUA SIGN;1 DENARIUS SIGN;1 QUINARIUS SIGN;1 SESTERTIUS SIGN;1 DUPONDIUS SIGN",
     "1 AS SIGN;1 CENTURIAL SIGN;ASCIA SYMBOL"]),
   (65952, ["GREEK SYMBOL TAU RHO"]),
   (66000,
    ["PHAISTOS DISC SIGN PEDESTRIAN;3 PLUMED HEAD;3 TATTOOED HEAD;3 CAPTIVE;3 CHILD;3 WOMAN",
     "3 HELMET;3 GAUNTLET;3 TIARA;3 ARROW;3 BOW;3 SHIELD;3 CLUB;3 MANACLES;3 MATTOCK;3 SAW",
     "3 LID;3 BOOMERANG;3 CARPENTRY PLANE;3 DOLIUM;3 COMB;3 SLING;3 COLUMN;3 BEEHIVE;3 SHIP",
     "3 HORN;3 HIDE;3 BULLS LEG;3 CAT;3 RAM;3 EAGLE;3 DOVE;3 TUNNY;3 BEE;3 PLANE TREE;3 VINE",
     "3 PAPYRUS;3 ROSETTE;3 LILY;3 OX BACK;3 FLUTE;3 GRATER;3 STRAINER;3 SMALL AXE;3 WAVY BAND",
     "3 COMBINING OBLIQUE STROKE"]),
   (66176,
    ["LYCIAN LETTER A;2 E;2 B;2 BH;2 G;2 D;2 I;2 W;2 Z;2 TH;2 J;2 K;2 Q;2 L;2 M;2 N;2 MM;2 NN",
     "2 U;2 P;2 KK;2 R;2 S;2 T;2 TT;2 AN;2 EN;2 H;2 X"]),
   (66208,
    ["CARIAN LETTER A;2 P2;2 D;2 L;2 UUU;2 R;2 LD;2 A2;2 Q;2 B;2 M;2 O;2 D2;2 T;2 SH;2 SH2;2 S",
     "2 C-18;2 U;2 NN;2 X;2 N;2 TT2;2 P;2 SS;2 I;2 E;2 UUUU;2 K;2 K2;2 ND;2 UU;2 G;2 G2;2 ST",
     "2 ST2;2 NG;2 II;2 C-39;2 TT;2 UUU2;2 RR;2 MB;2 MB2;2 MB3;2 MB4;2 LD2;2 E2;2 UUU3"]),
   (66272,
    ["COPTIC EPACT THOUSANDS MARK;2 DIGIT ONE;3 TWO;3 THREE;3 FOUR;3 FIVE;3 SIX;3 SEVEN",
     "3 EIGHT;3 NINE;2 NUMBER TEN;3 TWENTY;3 THIRTY;3 FORTY;3 FIFTY;3 SIXTY;3 SEVENTY;3 EIGHTY",
     "3 NINETY;3 ONE HUNDRED;3 TWO HUNDRED;3 THREE HUNDRED;3 FOUR HUNDRED;3 FIVE HUNDRED",
     "3 SIX HUNDRED;3 SEVEN HUNDRED;3 EIGHT HUNDRED;3 NINE HUNDRED"]),
   (66304,
    ["OLD ITALIC LETTER A;3 BE;3 KE;3 DE;3 E;3 VE;3 ZE;3 HE;3 THE;3 I;3 KA;3 EL;3 EM;3 EN",
     "3 ESH;3 O;3 PE;3 SHE;3 KU;3 ER;3 ES;3 TE;3 U;3 EKS;3 PHE;3 KHE;3 EF;3 ERS;3 CHE;3 II",
     "3 UU;3 ESS;2 NUMERAL ONE;3 FIVE;3 TEN;3 FIFTY"]),
   (66349,
    ["OLD ITALIC LETTER YE;3 NORTHERN TSE;3 SOUTHERN TSE;GOTHIC LETTER AHSA;2 BAIRKAN;2 GIBA",
     "2 DAGS;2 AIHVUS;2 QAIRTHRA;2 IUJA;2 HAGL;2 THIUTH;2 EIS;2 KUSMA;2 LAGUS;2 MANNA;2 NAUTHS",
     "2 JER;2 URUS;2 PAIRTHRA;2 NINETY;2 RAIDA;2 SAUIL;2 TEIWS;2 WINJA;2 FAIHU;2 IGGWS;2 HWAIR",
     "2 OTHAL;2 NINE HUNDRED"]),
   (66384,
    ["OLD PERMIC LETTER AN;3 BUR;3 GAI;3 DOI;3 E;3 ZHOI;3 DZHOI;3 ZATA;3 DZITA;3 I;3 KOKE",
     "3 LEI;3 MENOE;3 NENOE;3 VOOI;3 PEEI;3 REI;3 SII;3 TAI;3 U;3 CHERY;3 SHOOI;3 SHCHOOI",
     "3 YRY;3 YERU;3 O;3 OO;3 EF;3 HA;3 TSIU;3 VER;3 YER;3 YERI;3 YAT;3 IE;3 YU;3 YA;3 IA",
     "COMBINING OLD PERMIC LETTER AN;4 DOI;4 ZATA;4 NENOE;4 SII"]),
   (66432,
    ["UGARITIC LETTER ALPA;2 BETA;2 GAMLA;2 KHA;2 DELTA;2 HO;2 WO;2 ZETA;2 HOTA;2 TET;2 YOD",
     "2 KAF;2 SHIN;2 LAMDA;2 MEM;2 DHAL;2 NUN;2 ZU;2 SAMKA;2 AIN;2 PU;2 SADE;2 QOPA;2 RASHA",
     "2 THANNA;2 GHAIN;2 TO;2 I;2 U;2 SSU"]),
   (66463,
    ["UGARITIC WORD DIVIDER;OLD PERSIAN SIGN A;3 I;3 U;3 KA;3 KU;3 GA;3 GU;3 XA;3 CA;3 JA;3 JI",
     "3 TA;3 TU;3 DA;3 DI;3 DU;3 THA;3 PA;3 BA;3 FA;3 NA;3 NU;3 MA;3 MI;3 MU;3 YA;3 VA;3 VI",
     "3 RA;3 RU;3 LA;3 SA;3 ZA;3 SHA;3 SSA;3 HA"]),
   (66504,
    ["OLD PERSIAN SIGN AURAMAZDAA;3 AURAMAZDAA-2;3 AURAMAZDAAHA;3 XSHAAYATHIYA;3 DAHYAAUSH",
     "3 DAHYAAUSH-2;3 BAGA;3 BUUMISH;2 WORD DIVIDER;2 NUMBER ONE;3 TWO;3 TEN;3 TWENTY",
     "3 HUNDRED"]),
   (66560,
    ["DESERET CAPITAL LETTER LONG I;4 E;4 A;4 AH;4 O;4 OO;3 SHORT I;4 E;4 A;4 AH;4 O;4 OO;3 AY",
     "3 OW;3 WU;3 YEE;3 H;3 PEE;3 BEE;3 TEE;3 DEE;3 CHEE;3 JEE;3 KAY;3 GAY;3 EF;3 VEE;3 ETH",
     "3 THEE;3 ES;3 ZEE;3 ESH;3 ZHEE;3 ER;3 EL;3 EM;3 EN;3 ENG;3 OI;3 EW;1 SMALL LETTER LONG I",
     "4 E;4 A;4 AH;4 O;4 OO;3 SHORT I;4 E;4 A;4 AH;4 O;4 OO;3 AY;3 OW;3 WU;3 YEE;3 H;3 PEE",
     "3 BEE;3 TEE;3 DEE;3 CHEE;3 JEE;3 KAY;3 GAY;3 EF;3 VEE;3 ETH;3 THEE;3 ES;3 ZEE;3 ESH",
     "3 ZHEE;3 ER;3 EL;3 EM;3 EN;3 ENG;3 OI;3 EW;SHAVIAN LETTER PEEP;2 TOT;2 KICK;2 FEE",
     "2 THIGH;2 SO;2 SURE;2 CHURCH;2 YEA;2 HUNG;2 BIB;2 DEAD;2 GAG;2 VOW;2 THEY;2 ZOO",
     "2 MEASURE;2 JUDGE;2 WOE;2 HA-HA;2 LOLL;2 MIME;2 IF;2 EGG;2 ASH;2 ADO;2 ON;2 WOOL;2 OUT",
     "2 AH;2 ROAR;2 NUN;2 EAT;2 AGE;2 ICE;2 UP;2 OAK;2 OOZE;2 OIL;2 AWE;2 ARE;2 OR;2 AIR;2 ERR",
     "2 ARRAY;2 EAR;2 IAN;2 YEW;OSMANYA LETTER ALEF;2 BA;2 TA;2 JA;2 XA;2 KHA;2 DEEL;2 RA;2 SA",
     "2 SHIIN;2 DHA;2 CAYN;2 GA;2 FA;2 QAAF;2 KAAF;2 LAAN;2 MIIN;2 NUUN;2 WAW;2 HA;2 YA;2 A",
     "2 E;2 I;2 O;2 U;2 AA;2 EE;2 OO"]),
   (66720, ["OSMANYA DIGIT ZERO;2 ONE;2 TWO;2 THREE;2 FOUR;2 FIVE;2 SIX;2 SEVEN;2 EIGHT;2 NINE"]),
   (66736,
    ["OSAGE CAPITAL LETTER A;3 AI;3 AIN;3 AH;3 BRA;3 CHA;3 EHCHA;3 E;3 EIN;3 HA;3 HYA;3 I;3 KA",
     "3 EHKA;3 KYA;3 LA;3 MA;3 NA;3 O;3 OIN;3 PA;3 EHPA;3 SA;3 SHA;3 TA;3 EHTA;3 TSA;3 EHTSA",
     "3 TSHA;3 DHA;3 U;3 WA;3 KHA;3 GHA;3 ZA;3 ZHA"]),
   (66776,
    ["OSAGE SMALL LETTER A;3 AI;3 AIN;3 AH;3 BRA;3 CHA;3 EHCHA;3 E;3 EIN;3 HA;3 HYA;3 I;3 KA",
     "3 EHKA;3 KYA;3 LA;3 MA;3 NA;3 O;3 OIN;3 PA;3 EHPA;3 SA;3 SHA;3 TA;3 EHTA;3 TSA;3 EHTSA",
     "3 TSHA;3 DHA;3 U;3 WA;3 KHA;3 GHA;3 ZA;3 ZHA"]),
   (66816,
    ["ELBASAN LETTER A;2 BE;2 CE;2 CHE;2 DE;2 NDE;2 DHE;2 EI;2 E;2 FE;2 GE;2 GJE;2 HE;2 I;2 JE",
     "2 KE;2 LE;2 LLE;2 ME;2 NE;2 NA;2 NJE;2 O;2 PE;2 QE;2 RE;2 RRE;2 SE;2 SHE;2 TE;2 THE;2 U",
     "2 VE;2 XE;2 Y;2 ZE;2 ZHE;2 GHE;2 GHAMMA;2 KHE"]),
   (66864,
    ["CAUCASIAN ALBANIAN LETTER ALT;3 BET;3 GIM;3 DAT;3 EB;3 ZARL;3 EYN;3 ZHIL;3 TAS;3 CHA",
     "3 YOWD;3 ZHA;3 IRB;3 SHA;3 LAN;3 INYA;3 XEYN;3 DYAN;3 CAR;3 JHOX;3 KAR;3 LYIT;3 HEYT",
     "3 QAY;3 AOR;3 CHOY;3 CHI;3 CYAY;3 MAQ;3 QAR;3 NOWC;3 DZYAY;3 SHAK;3 JAYN;3 ON;3 TYAY",
     "3 FAM;3 DZAY;3 CHAT;3 PEN;3 GHEYS;3 RAT;3 SEYK;3 VEYZ;3 TIWR;3 SHOY;3 IWN;3 CYAW;3 CAYN",
     "3 YAYD;3 PIWR;3 KIW"]),
   (66927,
    ["CAUCASIAN ALBANIAN CITATION MARK;VITHKUQI CAPITAL LETTER A;3 BBE;3 BE;3 CE;3 CHE;3 DE",
     "3 DHE;3 EI;3 E;3 FE;3 GA"]),
   (66940,
    ["VITHKUQI CAPITAL LETTER HA;3 HHA;3 I;3 IJE;3 JE;3 KA;3 LA;3 LLA;3 ME;3 NE;3 NJE;3 O;3 PE",
     "3 QA;3 RE"]),
   (66956, ["VITHKUQI CAPITAL LETTER SE;3 SHE;3 TE;3 THE;3 U;3 VE;3 XE"]),
   (66964, ["VITHKUQI CAPITAL LETTER Y;3 ZE"]),
   (66967, ["VITHKUQI SMALL LETTER A;3 BBE;3 BE;3 CE;3 CHE;3 DE;3 DHE;3 EI;3 E;3 FE;3 GA"]),
   (66979,
    ["VITHKUQI SMALL LETTER HA;3 HHA;3 I;3 IJE;3 JE;3 KA;3 LA;3 LLA;3 ME;3 NE;3 NJE;3 O;3 PE",
     "3 QA;3 RE"]),
   (66995, ["VITHKUQI SMALL LETTER SE;3 SHE;3 TE;3 THE;3 U;3 VE;3 XE"]),
   (67003, ["VITHKUQI SMALL LETTER Y;3 ZE"]),
   (67072,
    ["LINEAR A SIGN AB001;3 AB002;3 AB003;3 AB004;3 AB005;3 AB006;3 AB007;3 AB008;3 AB009",
     "3 AB010;3 AB011;3 AB013;3 AB016;3 AB017;3 AB020;3 AB021;3 AB021F;3 AB021M;3 AB022",
     "3 AB022F;3 AB022M;3 AB023;3 AB023M;3 AB024;3 AB026;3 AB027;3 AB028;3 A028B;3 AB029",
     "3 AB030;3 AB031;3 AB034;3 AB037;3 AB038;3 AB039;3 AB040;3 AB041;3 AB044;3 AB045;3 AB046",
     "3 AB047;3 AB048;3 AB049;3 AB050;3 AB051;3 AB053;3 AB054;3 AB055;3 AB056;3 AB057;3 AB058",
     "3 AB059;3 AB060;3 AB061;3 AB065;3 AB066;3 AB067;3 AB069;3 AB070;3 AB073;3 AB074;3 AB076",
     "3 AB077;3 AB078;3 AB079;3 AB080;3 AB081;3 AB082;3 AB085;3 AB086;3 AB087;3 A100-102",
     "3 AB118;3 AB120;3 A120B;3 AB122;3 AB123;3 AB131A;3 AB131B;3 A131C;3 AB164;3 AB171",
     "3 AB180;3 AB188;3 AB191;3 A301;3 A302;3 A303;3 A304;3 A305;3 A306;3 A307;3 A308;3 A309A",
     "3 A309B;3 A309C;3 A310;3 A311;3 A312;3 A313A;3 A313B;3 A313C;3 A314;3 A315;3 A316;3 A317",
     "3 A318;3 A319;3 A320;3 A321;3 A322;3 A323;3 A324;3 A325;3 A326;3 A327;3 A328;3 A329",
     "3 A330;3 A331;3 A332;3 A333;3 A334;3 A335;3 A336;3 A337;3 A338;3 A339;3 A340;3 A341",
     "3 A342;3 A343;3 A344;3 A345;3 A346;3 A347;3 A348;3 A349;3 A350;3 A351;3 A352;3 A353",
     "3 A354;3 A355;3 A356;3 A357;3 A358;3 A359;3 A360;3 A361;3 A362;3 A363;3 A364;3 A365",
     "3 A366;3 A367;3 A368;3 A369;3 A370;3 A371;3 A400-VAS;3 A401-VAS;3 A402-VAS;3 A403-VAS",
     "3 A404-VAS;3 A405-VAS;3 A406-VAS;3 A407-VAS;3 A408-VAS;3 A409-VAS;3 A410-VAS;3 A411-VAS",
     "3 A412-VAS;3 A413-VAS;3 A414-VAS;3 A415-VAS;3 A416-VAS;3 A417-VAS;3 A418-VAS;3 A501",
     "3 A502;3 A503;3 A504;3 A505;3 A506;3 A508;3 A509;3 A510;3 A511;3 A512;3 A513;3 A515",
     "3 A516;3 A520;3 A521;3 A523;3 A524;3 A525;3 A526;3 A527;3 A528;3 A529;3 A530;3 A531",
     "3 A532;3 A534;3 A535;3 A536;3 A537;3 A538;3 A539;3 A540;3 A541;3 A542;3 A545;3 A547",
     "3 A548;3 A549;3 A550;3 A551;3 A552;3 A553;3 A554;3 A555;3 A556;3 A557;3 A559;3 A563",
     "3 A564;3 A565;3 A566;3 A568;3 A569;3 A570;3 A571;3 A572;3 A573;3 A574;3 A575;3 A576",
     "3 A577;3 A578;3 A579;3 A580;3 A581;3 A582;3 A583;3 A584;3 A585;3 A586;3 A587;3 A588",
     "3 A589;3 A591;3 A592;3 A594;3 A595;3 A596;3 A598;3 A600;3 A601;3 A602;3 A603;3 A604",
     "3 A606;3 A608;3 A609;3 A610;3 A611;3 A612;3 A613;3 A614;3 A615;3 A616;3 A617;3 A618",
     "3 A619;3 A620;3 A621;3 A622;3 A623;3 A624;3 A626;3 A627;3 A628;3 A629;3 A634;3 A637",
     "3 A638;3 A640;3 A642;3 A643;3 A644;3 A645;3 A646;3 A648;3 A649;3 A651;3 A652;3 A653",
     "3 A654;3 A655;3 A656;3 A657;3 A658;3 A659;3 A660;3 A661;3 A662;3 A663;3 A664"]),
   (67392,
    ["LINEAR A SIGN A701 A;3 A702 B;3 A703 D;3 A704 E;3 A705 F;3 A706 H;3 A707 J;3 A708 K",
     "3 A709 L;3 A709-2 L2;3 A709-3 L3;3 A709-4 L4;3 A709-6 L6;3 A710 W;3 A711 X;3 A712 Y",
     "3 A713 OMEGA;3 A714 ABB;3 A715 BB;3 A717 DD;3 A726 EYYY;3 A732 JE"]),
   (67424, ["LINEAR A SIGN A800;3 A801;3 A802;3 A803;3 A804;3 A805;3 A806;3 A807"]),
   (67456,
    ["MODIFIER LETTER SMALL CAPITAL AA;2 SUPERSCRIPT TRIANGULAR COLON;3 HALF TRIANGULAR COLON",
     "2 SMALL AE;3 CAPITAL B;3 B WITH HOOK"]),
   (67463,
    ["MODIFIER LETTER SMALL DZ DIGRAPH;5 WITH RETROFLEX HOOK;6 CURL;3 DEZH DIGRAPH",
     "3 D WITH TAIL;5 HOOK;6 AND TAIL;3 REVERSED E;3 CLOSED REVERSED OPEN E;3 FENG DIGRAPH",
     "3 RAMS HORN;3 CAPITAL G;3 G WITH HOOK;3 CAPITAL G WITH HOOK;3 H WITH STROKE;3 CAPITAL H",
     "3 HENG WITH HOOK;3 DOTLESS J WITH STROKE AND HOOK;3 LS DIGRAPH;3 LZ DIGRAPH",
     "3 L WITH BELT;3 CAPITAL L WITH BELT;3 L WITH RETROFLEX HOOK AND BELT;3 LEZH",
     "4 WITH RETROFLEX HOOK;3 TURNED Y;5 WITH BELT;3 O WITH STROKE;3 CAPITAL OE;3 CLOSED OMEGA",
     "3 Q;3 TURNED R WITH LONG LEG;8 AND RETROFLEX HOOK;3 R WITH TAIL;5 FISHHOOK;3 CAPITAL R",
     "3 TC DIGRAPH WITH CURL;3 TS DIGRAPH;5 WITH RETROFLEX HOOK;3 TESH DIGRAPH",
     "3 T WITH RETROFLEX HOOK;3 V WITH RIGHT HOOK"]),
   (67506,
    ["MODIFIER LETTER SMALL CAPITAL Y;2 GLOTTAL STOP WITH STROKE",
     "2 REVERSED GLOTTAL STOP WITH STROKE;2 BILABIAL CLICK;2 DENTAL CLICK;2 LATERAL CLICK",
     "2 ALVEOLAR CLICK;2 RETROFLEX CLICK WITH RETROFLEX HOOK;2 SMALL S WITH CURL"]),
   (67584, ["CYPRIOT SYLLABLE A;2 E;2 I;2 O;2 U;2 JA"]),
   (67592, ["CYPRIOT SYLLABLE JO"]),
   (67594,
    ["CYPRIOT SYLLABLE KA;2 KE;2 KI;2 KO;2 KU;2 LA;2 LE;2 LI;2 LO;2 LU;2 MA;2 ME;2 MI;2 MO",
     "2 MU;2 NA;2 NE;2 NI;2 NO;2 NU;2 PA;2 PE;2 PI;2 PO;2 PU;2 RA;2 RE;2 RI;2 RO;2 RU;2 SA",
     "2 SE;2 SI;2 SO;2 SU;2 TA;2 TE;2 TI;2 TO;2 TU;2 WA;2 WE;2 WI;2 WO"]),
   (67639, ["CYPRIOT SYLLABLE XA;2 XE"]),
   (67644, ["CYPRIOT SYLLABLE ZA"]),
   (67647,
    ["CYPRIOT SYLLABLE ZO;IMPERIAL ARAMAIC LETTER ALEPH;3 BETH;3 GIMEL;3 DALETH;3 HE;3 WAW",
     "3 ZAYIN;3 HETH;3 TETH;3 YODH;3 KAPH;3 LAMEDH;3 MEM;3 NUN;3 SAMEKH;3 AYIN;3 PE;3 SADHE",
     "3 QOPH;3 RESH;3 SHIN;3 TAW"]),
   (67671,
    ["IMPERIAL ARAMAIC SECTION SIGN;2 NUMBER ONE;3 TWO;3 THREE;3 TEN;3 TWENTY;3 ONE HUNDRED",
     "4 THOUSAND;3 TEN THOUSAND;PALMYRENE LETTER ALEPH;2 BETH;2 GIMEL;2 DALETH;2 HE;2 WAW",
     "2 ZAYIN;2 HETH;2 TETH;2 YODH;2 KAPH;2 LAMEDH;2 MEM;2 FINAL NUN;2 NUN;2 SAMEKH;2 AYIN",
     "2 PE;2 SADHE;2 QOPH;2 RESH;2 SHIN;2 TAW;1 LEFT-POINTING FLEURON;1 RIGHT-POINTING FLEURON",
     "1 NUMBER ONE;2 TWO;2 THREE;2 FOUR;2 FIVE;2 TEN;2 TWENTY;NABATAEAN LETTER FINAL ALEPH",
     "2 ALEPH;2 FINAL BETH;2 BETH;2 GIMEL;2 DALETH;2 FINAL HE;2 HE;2 WAW;2 ZAYIN;2 HETH;2 TETH",
     "2 FINAL YODH;2 YODH;2 FINAL KAPH;2 KAPH;2 FINAL LAMEDH;2 LAMEDH;2 FINAL MEM;2 MEM",
     "2 FINAL NUN;2 NUN;2 SAMEKH;2 AYIN;2 PE;2 SADHE;2 QOPH;2 RESH;2 FINAL SHIN;2 SHIN;2 TAW"]),
   (67751,
    ["NABATAEAN NUMBER ONE;2 TWO;2 THREE;2 FOUR;1 CRUCIFORM NUMBER FOUR;1 NUMBER FIVE;2 TEN",
     "2 TWENTY;2 ONE HUNDRED"]),
   (67808,
    ["HATRAN LETTER ALEPH;2 BETH;2 GIMEL;2 DALETH-RESH;2 HE;2 WAW;2 ZAYN;2 HETH;2 TETH;2 YODH",
     "2 KAPH;2 LAMEDH;2 MEM;2 NUN;2 SAMEKH;2 AYN;2 PE;2 SADHE;2 QOPH"]),
   (67828, ["HATRAN LETTER SHIN;2 TAW"]),
   (67835,
    ["HATRAN NUMBER ONE;2 FIVE;2 TEN;2 TWENTY;2 ONE HUNDRED;PHOENICIAN LETTER ALF;2 BET;2 GAML",
     "2 DELT;2 HE;2 WAU;2 ZAI;2 HET;2 TET;2 YOD;2 KAF;2 LAMD;2 MEM;2 NUN;2 SEMK;2 AIN;2 PE",
     "2 SADE;2 QOF;2 ROSH;2 SHIN;2 TAU;1 NUMBER ONE;2 TEN;2 TWENTY;2 ONE HUNDRED;2 TWO;2 THREE"]),
   (67871,
    ["PHOENICIAN WORD SEPARATOR;LYDIAN LETTER A;2 B;2 G;2 D;2 E;2 V;2 I;2 Y;2 K;2 L;2 M;2 N",
     "2 O;2 R;2 SS;2 T;2 U;2 F;2 Q;2 S;2 TT;2 AN;2 EN;2 LY;2 NN;2 C"]),
   (67903, ["LYDIAN TRIANGULAR MARK"]),
   (67968,
    ["MEROITIC HIEROGLYPHIC LETTER A;3 E;3 I;3 O;3 YA;3 WA;3 BA;3 BA-2;3 PA;3 MA;3 NA;3 NA-2",
     "3 NE;3 NE-2;3 RA;3 RA-2;3 LA;3 KHA;3 HHA;3 SA;3 SA-2;3 SE;3 KA;3 QA;3 TA;3 TA-2;3 TE",
     "3 TE-2;3 TO;3 DA;2 SYMBOL VIDJ;3 VIDJ-2;1 CURSIVE LETTER A;3 E;3 I;3 O;3 YA;3 WA;3 BA",
     "3 PA;3 MA;3 NA;3 NE;3 RA;3 LA;3 KHA;3 HHA;3 SA;3 ARCHAIC SA;3 SE;3 KA;3 QA;3 TA;3 TE",
     "3 TO;3 DA"]),
   (68028,
    ["MEROITIC CURSIVE FRACTION ELEVEN TWELFTHS;3 ONE HALF;2 LOGOGRAM RMT;3 IMN;2 NUMBER ONE",
     "3 TWO;3 THREE;3 FOUR;3 FIVE;3 SIX;3 SEVEN;3 EIGHT;3 NINE;3 TEN;3 TWENTY;3 THIRTY;3 FORTY",
     "3 FIFTY;3 SIXTY;3 SEVENTY"]),
   (68050,
    ["MEROITIC CURSIVE NUMBER ONE HUNDRED;3 TWO HUNDRED;3 THREE HUNDRED;3 FOUR HUNDRED",
     "3 FIVE HUNDRED;3 SIX HUNDRED;3 SEVEN HUNDRED;3 EIGHT HUNDRED;3 NINE HUNDRED",
     "3 ONE THOUSAND;3 TWO THOUSAND;3 THREE THOUSAND;3 FOUR THOUSAND;3 FIVE THOUSAND",
     "3 SIX THOUSAND;3 SEVEN THOUSAND;3 EIGHT THOUSAND;3 NINE THOUSAND;3 TEN THOUSAND",
     "3 TWENTY THOUSAND;3 THIRTY THOUSAND;3 FORTY THOUSAND;3 FIFTY THOUSAND;3 SIXTY THOUSAND",
     "3 SEVENTY THOUSAND;3 EIGHTY THOUSAND;3 NINETY THOUSAND;3 ONE HUNDRED THOUSAND",
     "3 TWO HUNDRED THOUSAND;3 THREE HUNDRED THOUSAND;3 FOUR HUNDRED THOUSAND",
     "3 FIVE HUNDRED THOUSAND;3 SIX HUNDRED THOUSAND;3 SEVEN HUNDRED THOUSAND",
     "3 EIGHT HUNDRED THOUSAND;3 NINE HUNDRED THOUSAND;2 FRACTION ONE TWELFTH;3 TWO TWELFTHS",
     "3 THREE TWELFTHS;3 FOUR TWELFTHS;3 FIVE TWELFTHS;3 SIX TWELFTHS;3 SEVEN TWELFTHS",
     "3 EIGHT TWELFTHS;3 NINE TWELFTHS;3 TEN TWELFTHS;KHAROSHTHI LETTER A;1 VOWEL SIGN I;3 U",
     "3 VOCALIC R"]),
   (68101, ["KHAROSHTHI VOWEL SIGN E;3 O"]),
   (68108,
    ["KHAROSHTHI VOWEL LENGTH MARK;1 SIGN DOUBLE RING BELOW;2 ANUSVARA;2 VISARGA;1 LETTER KA",
     "2 KHA;2 GA;2 GHA"]),
   (68117, ["KHAROSHTHI LETTER CA;2 CHA;2 JA"]),
   (68121,
    ["KHAROSHTHI LETTER NYA;2 TTA;2 TTHA;2 DDA;2 DDHA;2 NNA;2 TA;2 THA;2 DA;2 DHA;2 NA;2 PA",
     "2 PHA;2 BA;2 BHA;2 MA;2 YA;2 RA;2 LA;2 VA;2 SHA;2 SSA;2 SA;2 ZA;2 HA;2 KKA;2 TTTHA",
     "2 TTTA;2 VHA"]),
   (68152, ["KHAROSHTHI SIGN BAR ABOVE;2 CAUDA;2 DOT BELOW"]),
   (68159,
    ["KHAROSHTHI VIRAMA;1 DIGIT ONE;2 TWO;2 THREE;2 FOUR;1 NUMBER TEN;2 TWENTY;2 ONE HUNDRED",
     "3 THOUSAND;1 FRACTION ONE HALF"]),
   (68176,
    ["KHAROSHTHI PUNCTUATION DOT;2 SMALL CIRCLE;2 CIRCLE;2 CRESCENT BAR;2 MANGALAM;2 LOTUS",
     "2 DANDA;2 DOUBLE DANDA;2 LINES"]),
   (68192,
    ["OLD SOUTH ARABIAN LETTER HE;4 LAMEDH;4 HETH;4 MEM;4 QOPH;4 WAW;4 SHIN;4 RESH;4 BETH",
     "4 TAW;4 SAT;4 KAPH;4 NUN;4 KHETH;4 SADHE;4 SAMEKH;4 FE;4 ALEF;4 AYN;4 DHADHE;4 GIMEL",
     "4 DALETH;4 GHAYN;4 TETH;4 ZAYN;4 DHALETH;4 YODH;4 THAW;4 THETH;3 NUMBER ONE;4 FIFTY",
     "3 NUMERIC INDICATOR;1 NORTH ARABIAN LETTER HEH;4 LAM;4 HAH;4 MEEM;4 QAF;4 WAW;4 ES-2",
     "4 REH;4 BEH;4 TEH;4 ES-1;4 KAF;4 NOON;4 KHAH;4 SAD;4 ES-3;4 FEH;4 ALEF;4 AIN;4 DAD",
     "4 GEEM;4 DAL;4 GHAIN;4 TAH;4 ZAIN;4 THAL;4 YEH;4 THEH;4 ZAH;3 NUMBER ONE;4 TEN;4 TWENTY"]),
   (68288,
    ["MANICHAEAN LETTER ALEPH;2 BETH;2 BHETH;2 GIMEL;2 GHIMEL;2 DALETH;2 HE;2 WAW;1 SIGN UD",
     "1 LETTER ZAYIN;2 ZHAYIN;2 JAYIN;2 JHAYIN;2 HETH;2 TETH;2 YODH;2 KAPH;2 XAPH;2 KHAPH",
     "2 LAMEDH;2 DHAMEDH;2 THAMEDH;2 MEM;2 NUN;2 SAMEKH;2 AYIN;2 AAYIN;2 PE;2 FE;2 SADHE",
     "2 QOPH;2 XOPH;2 QHOPH;2 RESH;2 SHIN;2 SSHIN;2 TAW;1 ABBREVIATION MARK ABOVE;3 BELOW"]),
   (68331,
    ["MANICHAEAN NUMBER ONE;2 FIVE;2 TEN;2 TWENTY;2 ONE HUNDRED;1 PUNCTUATION STAR;2 FLEURON",
     "2 DOUBLE DOT WITHIN DOT;2 DOT WITHIN DOT;2 DOT;2 TWO DOTS;2 LINE FILLER"]),
   (68352,
    ["AVESTAN LETTER A;2 AA;2 AO;2 AAO;2 AN;2 AAN;2 AE;2 AEE;2 E;2 EE;2 O;2 OO;2 I;2 II;2 U",
     "2 UU;2 KE;2 XE;2 XYE;2 XVE;2 GE;2 GGE;2 GHE;2 CE;2 JE;2 TE;2 THE;2 DE;2 DHE;2 TTE;2 PE",
     "2 FE;2 BE;2 BHE;2 NGE;2 NGYE;2 NGVE;2 NE;2 NYE;2 NNE;2 ME;2 HME;2 YYE;2 YE;2 VE;2 RE",
     "2 LE;2 SE;2 ZE;2 SHE;2 ZHE;2 SHYE;2 SSHE;2 HE"]),
   (68409,
    ["AVESTAN ABBREVIATION MARK;TINY TWO DOTS OVER ONE DOT PUNCTUATION",
     "SMALL TWO DOTS OVER ONE DOT PUNCTUATION;LARGE TWO DOTS OVER ONE DOT PUNCTUATION",
     "1 ONE DOT OVER TWO DOTS PUNCTUATION;1 TWO RINGS OVER ONE RING PUNCTUATION",
     "1 ONE RING OVER TWO RINGS PUNCTUATION;INSCRIPTIONAL PARTHIAN LETTER ALEPH;3 BETH;3 GIMEL",
     "3 DALETH;3 HE;3 WAW;3 ZAYIN;3 HETH;3 TETH;3 YODH;3 KAPH;3 LAMEDH;3 MEM;3 NUN;3 SAMEKH",
     "3 AYIN;3 PE;3 SADHE;3 QOPH;3 RESH;3 SHIN;3 TAW"]),
   (68440,
    ["INSCRIPTIONAL PARTHIAN NUMBER ONE;3 TWO;3 THREE;3 FOUR;3 TEN;3 TWENTY;3 ONE HUNDRED",
     "4 THOUSAND;1 PAHLAVI LETTER ALEPH;3 BETH;3 GIMEL;3 DALETH;3 HE;3 WAW-AYIN-RESH;3 ZAYIN",
     "3 HETH;3 TETH;3 YODH;3 KAPH;3 LAMEDH;3 MEM-QOPH;3 NUN;3 SAMEKH;3 PE;3 SADHE;3 SHIN;3 TAW"]),
   (68472,
    ["INSCRIPTIONAL PAHLAVI NUMBER ONE;3 TWO;3 THREE;3 FOUR;3 TEN;3 TWENTY;3 ONE HUNDRED",
     "4 THOUSAND;PSALTER PAHLAVI LETTER ALEPH;3 BETH;3 GIMEL;3 DALETH;3 HE;3 WAW-AYIN-RESH",
     "3 ZAYIN;3 HETH;3 YODH;3 KAPH;3 LAMEDH;3 MEM-QOPH;3 NUN;3 SAMEKH;3 PE;3 SADHE;3 SHIN",
     "3 TAW"]),
   (68505, ["PSALTER PAHLAVI SECTION MARK;2 TURNED SECTION MARK;2 FOUR DOTS WITH CROSS;5 DOT"]),
   (68521, ["PSALTER PAHLAVI NUMBER ONE;3 TWO;3 THREE;3 FOUR;3 TEN;3 TWENTY;3 ONE HUNDRED"]),
   (68608,
    ["OLD TURKIC LETTER ORKHON A;3 YENISEI A;4 AE;3 ORKHON I;3 YENISEI I;4 E;3 ORKHON O;4 OE",
     "3 YENISEI OE;3 ORKHON AB;3 YENISEI AB;3 ORKHON AEB;3 YENISEI AEB;3 ORKHON AG",
     "3 YENISEI AG;3 ORKHON AEG;3 YENISEI AEG;3 ORKHON AD;3 YENISEI AD;3 ORKHON AED;4 EZ",
     "3 YENISEI EZ;3 ORKHON AY;3 YENISEI AY;3 ORKHON AEY;3 YENISEI AEY;3 ORKHON AEK",
     "3 YENISEI AEK;3 ORKHON OEK;3 YENISEI OEK;3 ORKHON AL;3 YENISEI AL;3 ORKHON AEL;4 ELT",
     "4 EM;4 AN;4 AEN;3 YENISEI AEN;3 ORKHON ENT;3 YENISEI ENT;3 ORKHON ENC;3 YENISEI ENC",
     "3 ORKHON ENY;3 YENISEI ENY;4 ANG;3 ORKHON ENG;3 YENISEI AENG;3 ORKHON EP;4 OP;4 IC;4 EC",
     "3 YENISEI EC;3 ORKHON AQ;3 YENISEI AQ;3 ORKHON IQ;3 YENISEI IQ;3 ORKHON OQ;3 YENISEI OQ",
     "3 ORKHON AR;3 YENISEI AR;3 ORKHON AER;4 AS;4 AES;4 ASH;3 YENISEI ASH;3 ORKHON ESH",
     "3 YENISEI ESH;3 ORKHON AT;3 YENISEI AT;3 ORKHON AET;3 YENISEI AET;3 ORKHON OT;4 BASH"]),
   (68736,
    ["OLD HUNGARIAN CAPITAL LETTER A;4 AA;4 EB;4 AMB;4 EC;4 ENC;4 ECS;4 ED;4 AND;4 E;4 CLOSE E",
     "4 EE;4 EF;4 EG;4 EGY;4 EH;4 I;4 II;4 EJ;4 EK;4 AK;4 UNK;4 EL;4 ELY;4 EM;4 EN;4 ENY;4 O",
     "4 OO;4 NIKOLSBURG OE;4 RUDIMENTA OE;4 OEE;4 EP;4 EMP;4 ER;4 SHORT ER;4 ES;4 ESZ;4 ET",
     "4 ENT;4 ETY;4 ECH;4 U;4 UU;4 NIKOLSBURG UE;4 RUDIMENTA UE;4 EV;4 EZ;4 EZS",
     "4 ENT-SHAPED SIGN;4 US"]),
   (68800,
    ["OLD HUNGARIAN SMALL LETTER A;4 AA;4 EB;4 AMB;4 EC;4 ENC;4 ECS;4 ED;4 AND;4 E;4 CLOSE E",
     "4 EE;4 EF;4 EG;4 EGY;4 EH;4 I;4 II;4 EJ;4 EK;4 AK;4 UNK;4 EL;4 ELY;4 EM;4 EN;4 ENY;4 O",
     "4 OO;4 NIKOLSBURG OE;4 RUDIMENTA OE;4 OEE;4 EP;4 EMP;4 ER;4 SHORT ER;4 ES;4 ESZ;4 ET",
     "4 ENT;4 ETY;4 ECH;4 U;4 UU;4 NIKOLSBURG UE;4 RUDIMENTA UE;4 EV;4 EZ;4 EZS",
     "4 ENT-SHAPED SIGN;4 US"]),
   (68858,
    ["OLD HUNGARIAN NUMBER ONE;3 FIVE;3 TEN;3 FIFTY;3 ONE HUNDRED;4 THOUSAND",
     "HANIFI ROHINGYA LETTER A;3 BA;3 PA;3 TA;3 TTA;3 JA;3 CA;3 HA;3 KHA;3 FA;3 DA;3 DDA;3 RA",
     "3 RRA;3 ZA;3 SA;3 SHA;3 KA;3 GA;3 LA;3 MA;3 NA;3 WA;3 KINNA WA;3 YA;3 KINNA YA;3 NGA",
     "3 NYA;3 VA;2 VOWEL A;3 I;3 U;3 E;3 O;2 MARK SAKIN;3 NA KHONNA;2 SIGN HARBAHAY;3 TAHALA",
     "3 TANA;3 TASSI"]),
   (68912,
    ["HANIFI ROHINGYA DIGIT ZERO;3 ONE;3 TWO;3 THREE;3 FOUR;3 FIVE;3 SIX;3 SEVEN;3 EIGHT",
     "3 NINE"]),
   (69216,
    ["RUMI DIGIT ONE;2 TWO;2 THREE;2 FOUR;2 FIVE;2 SIX;2 SEVEN;2 EIGHT;2 NINE;1 NUMBER TEN",
     "2 TWENTY;2 THIRTY;2 FORTY;2 FIFTY;2 SIXTY;2 SEVENTY;2 EIGHTY;2 NINETY;2 ONE HUNDRED",
     "2 TWO HUNDRED;2 THREE HUNDRED;2 FOUR HUNDRED;2 FIVE HUNDRED;2 SIX HUNDRED",
     "2 SEVEN HUNDRED;2 EIGHT HUNDRED;2 NINE HUNDRED;1 FRACTION ONE HALF;3 QUARTER;3 THIRD",
     "2 TWO THIRDS"]),
   (69248,
    ["YEZIDI LETTER ELIF;2 BE;2 PE;2 PHE;2 THE;2 SE;2 CIM;2 CHIM;2 CHHIM;2 HHA;2 XA;2 DAL",
     "2 ZAL;2 RA;2 RHA;2 ZA;2 JA;2 SIN;2 SHIN;2 SAD;2 DAD;2 TA;2 ZE;2 EYN;2 XHEYN;2 FA;2 VA",
     "3 ALTERNATE FORM;2 QAF;2 KAF;2 KHAF;2 GAF;2 LAM;2 MIM;2 NUN;2 UM;2 WAW;2 OW;2 EW;2 HAY",
     "2 YOT;2 ET"]),
   (69291, ["YEZIDI COMBINING HAMZA MARK;2 MADDA MARK;1 HYPHENATION MARK"]),
   (69296, ["YEZIDI LETTER LAM WITH DOT ABOVE;2 YOT WITH CIRCUMFLEX ABOVE"]),
   (69376,
    ["OLD SOGDIAN LETTER ALEPH;3 FINAL ALEPH;3 BETH;3 FINAL BETH;3 GIMEL;3 HE;3 FINAL HE;3 WAW",
     "3 ZAYIN;3 HETH;3 YODH;3 KAPH;3 LAMEDH;3 MEM;3 NUN;3 FINAL NUN;5 WITH VERTICAL TAIL",
     "3 SAMEKH;3 AYIN;3 ALTERNATE AYIN;3 PE;3 SADHE;3 FINAL SADHE;5 WITH VERTICAL TAIL",
     "3 RESH-AYIN-DALETH;3 SHIN;3 TAW;3 FINAL TAW;5 WITH VERTICAL TAIL;2 NUMBER ONE;3 TWO",
     "3 THREE;3 FOUR;3 FIVE;3 TEN;3 TWENTY;3 THIRTY;3 ONE HUNDRED;2 FRACTION ONE HALF",
     "2 LIGATURE AYIN-DALETH"]),
   (69424,
    ["SOGDIAN LETTER ALEPH;2 BETH;2 GIMEL;2 HE;2 WAW;2 ZAYIN;2 HETH;2 YODH;2 KAPH;2 LAMEDH",
     "2 MEM;2 NUN;2 SAMEKH;2 AYIN;2 PE;2 SADHE;2 RESH-AYIN;2 SHIN;2 TAW;2 FETH;2 LESH",
     "1 INDEPENDENT SHIN;1 COMBINING DOT BELOW;2 TWO DOTS BELOW;2 DOT ABOVE;2 TWO DOTS ABOVE",
     "2 CURVE ABOVE;3 BELOW;2 HOOK ABOVE;3 BELOW;2 LONG HOOK BELOW;2 RESH BELOW;2 STROKE BELOW",
     "1 NUMBER ONE;2 TEN;2 TWENTY;2 ONE HUNDRED;1 PUNCTUATION TWO VERTICAL BARS;5 WITH DOTS",
     "2 CIRCLE WITH DOT;2 TWO CIRCLES WITH DOTS;2 HALF CIRCLE WITH DOT"]),
   (69488,
    ["OLD UYGHUR LETTER ALEPH;3 BETH;3 GIMEL-HETH;3 WAW;3 ZAYIN;3 FINAL HETH;3 YODH;3 KAPH",
     "3 LAMEDH;3 MEM;3 NUN;3 SAMEKH;3 PE;3 SADHE;3 RESH;3 SHIN;3 TAW;3 LESH",
     "2 COMBINING DOT ABOVE;4 BELOW;3 TWO DOTS ABOVE;5 BELOW;2 PUNCTUATION BAR;3 TWO BARS",
     "4 DOTS;3 FOUR DOTS"]),
   (69552,
    ["CHORASMIAN LETTER ALEPH;2 SMALL ALEPH;2 BETH;2 GIMEL;2 DALETH;2 HE;2 WAW;2 CURLED WAW",
     "2 ZAYIN;2 HETH;2 YODH;2 KAPH;2 LAMEDH;2 MEM;2 NUN;2 SAMEKH;2 AYIN;2 PE;2 RESH;2 SHIN",
     "2 TAW;1 NUMBER ONE;2 TWO;2 THREE;2 FOUR;2 TEN;2 TWENTY;2 ONE HUNDRED"]),
   (69600,
    ["ELYMAIC LETTER ALEPH;2 BETH;2 GIMEL;2 DALETH;2 HE;2 WAW;2 ZAYIN;2 HETH;2 TETH;2 YODH",
     "2 KAPH;2 LAMEDH;2 MEM;2 NUN;2 SAMEKH;2 AYIN;2 PE;2 SADHE;2 QOPH;2 RESH;2 SHIN;2 TAW",
     "1 LIGATURE ZAYIN-YODH"]),
   (69632,
    ["BRAHMI SIGN CANDRABINDU;2 ANUSVARA;2 VISARGA;2 JIHVAMULIYA;2 UPADHMANIYA;1 LETTER A;2 AA",
     "2 I;2 II;2 U;2 UU;2 VOCALIC R;3 RR;3 L;3 LL;2 E;2 AI;2 O;2 AU;2 KA;2 KHA;2 GA;2 GHA",
     "2 NGA;2 CA;2 CHA;2 JA;2 JHA;2 NYA;2 TTA;2 TTHA;2 DDA;2 DDHA;2 NNA;2 TA;2 THA;2 DA;2 DHA",
     "2 NA;2 PA;2 PHA;2 BA;2 BHA;2 MA;2 YA;2 RA;2 LA;2 VA;2 SHA;2 SSA;2 SA;2 HA;2 LLA",
     "2 OLD TAMIL LLLA;4 RRA;4 NNNA;1 VOWEL SIGN AA;3 BHATTIPROLU AA;3 I;3 II;3 U;3 UU",
     "3 VOCALIC R;4 RR;4 L;4 LL;3 E;3 AI;3 O;3 AU;1 VIRAMA;1 DANDA;1 DOUBLE DANDA",
     "1 PUNCTUATION DOT;2 DOUBLE DOT;2 LINE;2 CRESCENT BAR;2 LOTUS"]),
   (69714,
    ["BRAHMI NUMBER ONE;2 TWO;2 THREE;2 FOUR;2 FIVE;2 SIX;2 SEVEN;2 EIGHT;2 NINE;2 TEN",
     "2 TWENTY;2 THIRTY;2 FORTY;2 FIFTY;2 SIXTY;2 SEVENTY;2 EIGHTY;2 NINETY;2 ONE HUNDRED",
     "3 THOUSAND;1 DIGIT ZERO;2 ONE;2 TWO;2 THREE;2 FOUR;2 FIVE;2 SIX;2 SEVEN;2 EIGHT;2 NINE",
     "1 SIGN OLD TAMIL VIRAMA;1 LETTER OLD TAMIL SHORT E;5 O;1 VOWEL SIGN OLD TAMIL SHORT E",
     "6 O;1 LETTER OLD TAMIL LLA"]),
   (69759,
    ["BRAHMI NUMBER JOINER;KAITHI SIGN CANDRABINDU;2 ANUSVARA;2 VISARGA;1 LETTER A;2 AA;2 I",
     "2 II;2 U;2 UU;2 E;2 AI;2 O;2 AU;2 KA;2 KHA;2 GA;2 GHA;2 NGA;2 CA;2 CHA;2 JA;2 JHA;2 NYA",
     "2 TTA;2 TTHA;2 DDA;2 DDDHA;2 DDHA;2 RHA;2 NNA;2 TA;2 THA;2 DA;2 DHA;2 NA;2 PA;2 PHA;2 BA",
     "2 BHA;2 MA;2 YA;2 RA;2 LA;2 VA;2 SHA;2 SSA;2 SA;2 HA;1 VOWEL SIGN AA;3 I;3 II;3 U;3 UU",
     "3 E;3 AI;3 O;3 AU;1 SIGN VIRAMA;2 NUKTA;1 ABBREVIATION SIGN;1 ENUMERATION SIGN",
     "1 NUMBER SIGN;1 SECTION MARK;1 DOUBLE SECTION MARK;1 DANDA;1 DOUBLE DANDA",
     "1 VOWEL SIGN VOCALIC R"]),
   (69837, ["KAITHI NUMBER SIGN ABOVE"]),
   (69840,
    ["SORA SOMPENG LETTER SAH;3 TAH;3 BAH;3 CAH;3 DAH;3 GAH;3 MAH;3 NGAH;3 LAH;3 NAH;3 VAH",
     "3 PAH;3 YAH;3 RAH;3 HAH;3 KAH;3 JAH;3 NYAH;3 AH;3 EEH;3 IH;3 UH;3 OH;3 EH;3 MAE"]),
   (69872,
    ["SORA SOMPENG DIGIT ZERO;3 ONE;3 TWO;3 THREE;3 FOUR;3 FIVE;3 SIX;3 SEVEN;3 EIGHT;3 NINE"]),
   (69888,
    ["CHAKMA SIGN CANDRABINDU;2 ANUSVARA;2 VISARGA;1 LETTER AA;2 I;2 U;2 E;2 KAA;2 KHAA;2 GAA",
     "2 GHAA;2 NGAA;2 CAA;2 CHAA;2 JAA;2 JHAA;2 NYAA;2 TTAA;2 TTHAA;2 DDAA;2 DDHAA;2 NNAA",
     "2 TAA;2 THAA;2 DAA;2 DHAA;2 NAA;2 PAA;2 PHAA;2 BAA;2 BHAA;2 MAA;2 YYAA;2 YAA;2 RAA;2 LAA",
     "2 WAA;2 SAA;2 HAA;1 VOWEL SIGN A;3 I;3 II;3 U;3 UU;3 E;3 AI;3 O;3 AU;3 OI;1 O MARK",
     "1 AU MARK;1 VIRAMA;1 MAAYYAA"]),
   (69942,
    ["CHAKMA DIGIT ZERO;2 ONE;2 TWO;2 THREE;2 FOUR;2 FIVE;2 SIX;2 SEVEN;2 EIGHT;2 NINE",
     "1 SECTION MARK;1 DANDA;1 DOUBLE DANDA;1 QUESTION MARK;1 LETTER LHAA;1 VOWEL SIGN AA;3 EI",
     "1 LETTER VAA"]),
   (69968,
    ["MAHAJANI LETTER A;2 I;2 U;2 E;2 O;2 KA;2 KHA;2 GA;2 GHA;2 CA;2 CHA;2 JA;2 JHA;2 NYA",
     "2 TTA;2 TTHA;2 DDA;2 DDHA;2 NNA;2 TA;2 THA;2 DA;2 DHA;2 NA;2 PA;2 PHA;2 BA;2 BHA;2 MA",
     "2 RA;2 LA;2 VA;2 SA;2 HA;2 RRA;1 SIGN NUKTA;1 ABBREVIATION SIGN;1 SECTION MARK",
     "1 LIGATURE SHRI"]),
   (70016,
    ["SHARADA SIGN CANDRABINDU;2 ANUSVARA;2 VISARGA;1 LETTER A;2 AA;2 I;2 II;2 U;2 UU",
     "2 VOCALIC R;3 RR;3 L;3 LL;2 E;2 AI;2 O;2 AU;2 KA;2 KHA;2 GA;2 GHA;2 NGA;2 CA;2 CHA;2 JA",
     "2 JHA;2 NYA;2 TTA;2 TTHA;2 DDA;2 DDHA;2 NNA;2 TA;2 THA;2 DA;2 DHA;2 NA;2 PA;2 PHA;2 BA",
     "2 BHA;2 MA;2 YA;2 RA;2 LA;2 LLA;2 VA;2 SHA;2 SSA;2 SA;2 HA;1 VOWEL SIGN AA;3 I;3 II;3 U",
     "3 UU;3 VOCALIC R;4 RR;4 L;4 LL;3 E;3 AI;3 O;3 AU;1 SIGN VIRAMA;2 AVAGRAHA;2 JIHVAMULIYA",
     "2 UPADHMANIYA;1 OM;1 DANDA;1 DOUBLE DANDA;1 ABBREVIATION SIGN;1 SEPARATOR;1 SANDHI MARK",
     "1 SIGN NUKTA;1 VOWEL MODIFIER MARK;1 EXTRA SHORT VOWEL MARK;1 SUTRA MARK",
     "1 VOWEL SIGN PRISHTHAMATRA E;1 SIGN INVERTED CANDRABINDU;1 DIGIT ZERO;2 ONE;2 TWO",
     "2 THREE;2 FOUR;2 FIVE;2 SIX;2 SEVEN;2 EIGHT;2 NINE;1 EKAM;1 SIGN SIDDHAM;1 HEADSTROKE",
     "1 CONTINUATION SIGN;1 SECTION MARK-1;2 MARK-2"]),
   (70113,
    ["SINHALA ARCHAIC DIGIT ONE;3 TWO;3 THREE;3 FOUR;3 FIVE;3 SIX;3 SEVEN;3 EIGHT;3 NINE",
     "2 NUMBER TEN;3 TWENTY;3 THIRTY;3 FORTY;3 FIFTY;3 SIXTY;3 SEVENTY;3 EIGHTY;3 NINETY",
     "3 ONE HUNDRED;4 THOUSAND"]),
   (70144,
    ["KHOJKI LETTER A;2 AA;2 I;2 U;2 E;2 AI;2 O;2 AU;2 KA;2 KHA;2 GA;2 GGA;2 GHA;2 NGA;2 CA",
     "2 CHA;2 JA;2 JJA"]),
   (70163,
    ["KHOJKI LETTER NYA;2 TTA;2 TTHA;2 DDA;2 DDHA;2 NNA;2 TA;2 THA;2 DA;2 DDDA;2 DHA;2 NA;2 PA",
     "2 PHA;2 BA;2 BBA;2 BHA;2 MA;2 YA;2 RA;2 LA;2 VA;2 SA;2 HA;2 LLA;1 VOWEL SIGN AA;3 I;3 II",
     "3 U;3 E;3 AI;3 O;3 AU;1 SIGN ANUSVARA;2 VIRAMA;2 NUKTA;2 SHADDA;1 DANDA;1 DOUBLE DANDA",
     "1 WORD SEPARATOR;1 SECTION MARK;1 DOUBLE SECTION MARK;1 ABBREVIATION SIGN;1 SIGN SUKUN"]),
   (70272, ["MULTANI LETTER A;2 I;2 U;2 E;2 KA;2 KHA;2 GA"]),
   (70280, ["MULTANI LETTER GHA"]),
   (70282, ["MULTANI LETTER CA;2 CHA;2 JA;2 JJA"]),
   (70287,
    ["MULTANI LETTER NYA;2 TTA;2 TTHA;2 DDA;2 DDDA;2 DDHA;2 NNA;2 TA;2 THA;2 DA;2 DHA;2 NA",
     "2 PA;2 PHA;2 BA"]),
   (70303, ["MULTANI LETTER BHA;2 MA;2 YA;2 RA;2 LA;2 VA;2 SA;2 HA;2 RRA;2 RHA;1 SECTION MARK"]),
   (70320,
    ["KHUDAWADI LETTER A;2 AA;2 I;2 II;2 U;2 UU;2 E;2 AI;2 O;2 AU;2 KA;2 KHA;2 GA;2 GGA;2 GHA",
     "2 NGA;2 CA;2 CHA;2 JA;2 JJA;2 JHA;2 NYA;2 TTA;2 TTHA;2 DDA;2 DDDA;2 RRA;2 DDHA;2 NNA",
     "2 TA;2 THA;2 DA;2 DHA;2 NA;2 PA;2 PHA;2 BA;2 BBA;2 BHA;2 MA;2 YA;2 RA;2 LA;2 VA;2 SHA",
     "2 SA;2 HA;1 SIGN ANUSVARA;1 VOWEL SIGN AA;3 I;3 II;3 U;3 UU;3 E;3 AI;3 O;3 AU",
     "1 SIGN NUKTA;2 VIRAMA"]),
   (70384, ["KHUDAWADI DIGIT ZERO;2 ONE;2 TWO;2 THREE;2 FOUR;2 FIVE;2 SIX;2 SEVEN;2 EIGHT;2 NINE"]),
   (70400, ["GRANTHA SIGN COMBINING ANUSVARA ABOVE;2 CANDRABINDU;2 ANUSVARA;2 VISARGA"]),
   (70405, ["GRANTHA LETTER A;2 AA;2 I;2 II;2 U;2 UU;2 VOCALIC R;3 L"]),
   (70415, ["GRANTHA LETTER EE;2 AI"]),
   (70419,
    ["GRANTHA LETTER OO;2 AU;2 KA;2 KHA;2 GA;2 GHA;2 NGA;2 CA;2 CHA;2 JA;2 JHA;2 NYA;2 TTA",
     "2 TTHA;2 DDA;2 DDHA;2 NNA;2 TA;2 THA;2 DA;2 DHA;2 NA"]),
   (70442, ["GRANTHA LETTER PA;2 PHA;2 BA;2 BHA;2 MA;2 YA;2 RA"]),
   (70450, ["GRANTHA LETTER LA;2 LLA"]),
   (70453, ["GRANTHA LETTER VA;2 SHA;2 SSA;2 SA;2 HA"]),
   (70459,
    ["COMBINING BINDU BELOW;GRANTHA SIGN NUKTA;2 AVAGRAHA;1 VOWEL SIGN AA;3 I;3 II;3 U;3 UU",
     "3 VOCALIC R;4 RR"]),
   (70471, ["GRANTHA VOWEL SIGN EE;3 AI"]),
   (70475, ["GRANTHA VOWEL SIGN OO;3 AU;1 SIGN VIRAMA"]),
   (70480, ["GRANTHA OM"]),
   (70487, ["GRANTHA AU LENGTH MARK"]),
   (70493,
    ["GRANTHA SIGN PLUTA;1 LETTER VEDIC ANUSVARA;3 DOUBLE ANUSVARA;2 VOCALIC RR;3 LL",
     "1 VOWEL SIGN VOCALIC L;4 LL"]),
   (70502, ["COMBINING GRANTHA DIGIT ZERO;3 ONE;3 TWO;3 THREE;3 FOUR;3 FIVE;3 SIX"]),
   (70512, ["COMBINING GRANTHA LETTER A;3 KA;3 NA;3 VI;3 PA"]),
   (70656,
    ["NEWA LETTER A;2 AA;2 I;2 II;2 U;2 UU;2 VOCALIC R;3 RR;3 L;3 LL;2 E;2 AI;2 O;2 AU;2 KA",
     "2 KHA;2 GA;2 GHA;2 NGA;2 NGHA;2 CA;2 CHA;2 JA;2 JHA;2 NYA;2 NYHA;2 TTA;2 TTHA;2 DDA",
     "2 DDHA;2 NNA;2 TA;2 THA;2 DA;2 DHA;2 NA;2 NHA;2 PA;2 PHA;2 BA;2 BHA;2 MA;2 MHA;2 YA;2 RA",
     "2 RHA;2 LA;2 LHA;2 WA;2 SHA;2 SSA;2 SA;2 HA;1 VOWEL SIGN AA;3 I;3 II;3 U;3 UU",
     "3 VOCALIC R;4 RR;4 L;4 LL;3 E;3 AI;3 O;3 AU;1 SIGN VIRAMA;2 CANDRABINDU;2 ANUSVARA",
     "2 VISARGA;2 NUKTA;2 AVAGRAHA;2 FINAL ANUSVARA;1 OM;1 SIDDHI;1 DANDA;1 DOUBLE DANDA",
     "1 COMMA;1 GAP FILLER;1 ABBREVIATION SIGN;1 DIGIT ZERO;2 ONE;2 TWO;2 THREE;2 FOUR;2 FIVE",
     "2 SIX;2 SEVEN;2 EIGHT;2 NINE;1 DOUBLE COMMA;1 PLACEHOLDER MARK"]),
   (70749,
    ["NEWA INSERTION SIGN;1 SANDHI MARK;1 LETTER VEDIC ANUSVARA;1 SIGN JIHVAMULIYA",
     "2 UPADHMANIYA"]),
   (70784,
    ["TIRHUTA ANJI;1 LETTER A;2 AA;2 I;2 II;2 U;2 UU;2 VOCALIC R;3 RR;3 L;3 LL;2 E;2 AI;2 O",
     "2 AU;2 KA;2 KHA;2 GA;2 GHA;2 NGA;2 CA;2 CHA;2 JA;2 JHA;2 NYA;2 TTA;2 TTHA;2 DDA;2 DDHA",
     "2 NNA;2 TA;2 THA;2 DA;2 DHA;2 NA;2 PA;2 PHA;2 BA;2 BHA;2 MA;2 YA;2 RA;2 LA;2 VA;2 SHA",
     "2 SSA;2 SA;2 HA;1 VOWEL SIGN AA;3 I;3 II;3 U;3 UU;3 VOCALIC R;4 RR;4 L;4 LL;3 E",
     "3 SHORT E;3 AI;3 O;3 SHORT O;3 AU;1 SIGN CANDRABINDU;2 ANUSVARA;2 VISARGA;2 VIRAMA",
     "2 NUKTA;2 AVAGRAHA;1 GVANG;1 ABBREVIATION SIGN;1 OM"]),
   (70864, ["TIRHUTA DIGIT ZERO;2 ONE;2 TWO;2 THREE;2 FOUR;2 FIVE;2 SIX;2 SEVEN;2 EIGHT;2 NINE"]),
   (71040,
    ["SIDDHAM LETTER A;2 AA;2 I;2 II;2 U;2 UU;2 VOCALIC R;3 RR;3 L;3 LL;2 E;2 AI;2 O;2 AU;2 KA",
     "2 KHA;2 GA;2 GHA;2 NGA;2 CA;2 CHA;2 JA;2 JHA;2 NYA;2 TTA;2 TTHA;2 DDA;2 DDHA;2 NNA;2 TA",
     "2 THA;2 DA;2 DHA;2 NA;2 PA;2 PHA;2 BA;2 BHA;2 MA;2 YA;2 RA;2 LA;2 VA;2 SHA;2 SSA;2 SA",
     "2 HA;1 VOWEL SIGN AA;3 I;3 II;3 U;3 UU;3 VOCALIC R;4 RR"]),
   (71096,
    ["SIDDHAM VOWEL SIGN E;3 AI;3 O;3 AU;1 SIGN CANDRABINDU;2 ANUSVARA;2 VISARGA;2 VIRAMA",
     "2 NUKTA;2 SIDDHAM;1 DANDA;1 DOUBLE DANDA;1 SEPARATOR DOT;2 BAR;1 REPETITION MARK-1",
     "2 MARK-2;2 MARK-3;1 END OF TEXT MARK;1 SECTION MARK WITH TRIDENT AND U-SHAPED ORNAMENTS",
     "6 DOTTED CRESCENTS;4 RAYS AND DOTTED CRESCENTS;7 DOUBLE CRESCENTS;7 TRIPLE CRESCENTS",
     "3 DOUBLE RING;5 WITH RAYS;3 WITH DOUBLE CRESCENTS;4 TRIPLE CRESCENTS",
     "4 QUADRUPLE CRESCENTS;4 SEPTUPLE CRESCENTS;4 CIRCLES AND RAYS;6 TWO ENCLOSURES",
     "6 FOUR ENCLOSURES;1 LETTER THREE-CIRCLE ALTERNATE I;2 TWO-CIRCLE ALTERNATE I;4 II",
     "2 ALTERNATE U;1 VOWEL SIGN ALTERNATE U;4 UU"]),
   (71168,
    ["MODI LETTER A;2 AA;2 I;2 II;2 U;2 UU;2 VOCALIC R;3 RR;3 L;3 LL;2 E;2 AI;2 O;2 AU;2 KA",
     "2 KHA;2 GA;2 GHA;2 NGA;2 CA;2 CHA;2 JA;2 JHA;2 NYA;2 TTA;2 TTHA;2 DDA;2 DDHA;2 NNA;2 TA",
     "2 THA;2 DA;2 DHA;2 NA;2 PA;2 PHA;2 BA;2 BHA;2 MA;2 YA;2 RA;2 LA;2 VA;2 SHA;2 SSA;2 SA",
     "2 HA;2 LLA;1 VOWEL SIGN AA;3 I;3 II;3 U;3 UU;3 VOCALIC R;4 RR;4 L;4 LL;3 E;3 AI;3 O;3 AU",
     "1 SIGN ANUSVARA;2 VISARGA;2 VIRAMA;2 ARDHACANDRA;1 DANDA;1 DOUBLE DANDA",
     "1 ABBREVIATION SIGN;1 SIGN HUVA"]),
   (71248, ["MODI DIGIT ZERO;2 ONE;2 TWO;2 THREE;2 FOUR;2 FIVE;2 SIX;2 SEVEN;2 EIGHT;2 NINE"]),
   (71264,
    ["MONGOLIAN BIRGA WITH ORNAMENT;1 ROTATED BIRGA;1 DOUBLE BIRGA WITH ORNAMENT",
     "1 TRIPLE BIRGA WITH ORNAMENT;1 BIRGA WITH DOUBLE ORNAMENT;1 ROTATED BIRGA WITH ORNAMENT",
     "4 DOUBLE ORNAMENT;1 INVERTED BIRGA;3 WITH DOUBLE ORNAMENT;1 SWIRL BIRGA;3 WITH ORNAMENT",
     "4 DOUBLE ORNAMENT;1 TURNED SWIRL BIRGA WITH DOUBLE ORNAMENT"]),
   (71296,
    ["TAKRI LETTER A;2 AA;2 I;2 II;2 U;2 UU;2 E;2 AI;2 O;2 AU;2 KA;2 KHA;2 GA;2 GHA;2 NGA;2 CA",
     "2 CHA;2 JA;2 JHA;2 NYA;2 TTA;2 TTHA;2 DDA;2 DDHA;2 NNA;2 TA;2 THA;2 DA;2 DHA;2 NA;2 PA",
     "2 PHA;2 BA;2 BHA;2 MA;2 YA;2 RA;2 LA;2 VA;2 SHA;2 SA;2 HA;2 RRA;1 SIGN ANUSVARA",
     "2 VISARGA;1 VOWEL SIGN AA;3 I;3 II;3 U;3 UU;3 E;3 AI;3 O;3 AU;1 SIGN VIRAMA;2 NUKTA",
     "1 LETTER ARCHAIC KHA;1 ABBREVIATION SIGN"]),
   (71360, ["TAKRI DIGIT ZERO;2 ONE;2 TWO;2 THREE;2 FOUR;2 FIVE;2 SIX;2 SEVEN;2 EIGHT;2 NINE"]),
   (71424,
    ["AHOM LETTER KA;2 KHA;2 NGA;2 NA;2 TA;2 ALTERNATE TA;2 PA;2 PHA;2 BA;2 MA;2 JA;2 CHA",
     "2 THA;2 RA;2 LA;2 SA;2 NYA;2 HA;2 A;2 DA;2 DHA;2 GA;2 ALTERNATE GA;2 GHA;2 BHA;2 JHA",
     "2 ALTERNATE BA"]),
   (71453,
    ["AHOM CONSONANT SIGN MEDIAL LA;4 RA;4 LIGATING RA;1 VOWEL SIGN A;3 AA;3 I;3 II;3 U;3 UU",
     "3 E;3 AW;3 O;3 AI;3 AM;1 SIGN KILLER"]),
   (71472,
    ["AHOM DIGIT ZERO;2 ONE;2 TWO;2 THREE;2 FOUR;2 FIVE;2 SIX;2 SEVEN;2 EIGHT;2 NINE",
     "1 NUMBER TEN;2 TWENTY;1 SIGN SMALL SECTION;2 SECTION;2 RULAI;1 SYMBOL VI;1 LETTER CA",
     "2 TTA;2 TTHA;2 DDA;2 DDHA;2 NNA;2 LLA"]),
   (71680,
    ["DOGRA LETTER A;2 AA;2 I;2 II;2 U;2 UU;2 E;2 AI;2 O;2 AU;2 KA;2 KHA;2 GA;2 GHA;2 NGA;2 CA",
     "2 CHA;2 JA;2 JHA;2 NYA;2 TTA;2 TTHA;2 DDA;2 DDHA;2 NNA;2 TA;2 THA;2 DA;2 DHA;2 NA;2 PA",
     "2 PHA;2 BA;2 BHA;2 MA;2 YA;2 RA;2 LA;2 VA;2 SHA;2 SSA;2 SA;2 HA;2 RRA;1 VOWEL SIGN AA",
     "3 I;3 II;3 U;3 UU;3 VOCALIC R;4 RR;3 E;3 AI;3 O;3 AU;1 SIGN ANUSVARA;2 VISARGA;2 VIRAMA",
     "2 NUKTA;1 ABBREVIATION SIGN"]),
   (71840,
    ["WARANG CITI CAPITAL LETTER NGAA;4 A;4 WI;4 YU;4 YA;4 YO;4 II;4 UU;4 E;4 O;4 ANG;4 GA",
     "4 KO;4 ENY;4 YUJ;4 UC;4 ENN;4 ODD;4 TTE;4 NUNG;4 DA;4 AT;4 AM;4 BU;4 PU;4 HIYO;4 HOLO",
     "4 HORR;4 HAR;4 SSUU;4 SII;4 VIYO;2 SMALL LETTER NGAA;4 A;4 WI;4 YU;4 YA;4 YO;4 II;4 UU",
     "4 E;4 O;4 ANG;4 GA;4 KO;4 ENY;4 YUJ;4 UC;4 ENN;4 ODD;4 TTE;4 NUNG;4 DA;4 AT;4 AM;4 BU",
     "4 PU;4 HIYO;4 HOLO;4 HORR;4 HAR;4 SSUU;4 SII;4 VIYO;2 DIGIT ZERO;3 ONE;3 TWO;3 THREE",
     "3 FOUR;3 FIVE;3 SIX;3 SEVEN;3 EIGHT;3 NINE;2 NUMBER TEN;3 TWENTY;3 THIRTY;3 FORTY",
     "3 FIFTY;3 SIXTY;3 SEVENTY;3 EIGHTY;3 NINETY"]),
   (71935, ["WARANG CITI OM;DIVES AKURU LETTER A;3 AA;3 I;3 II;3 U;3 UU;3 E"]),
   (71945, ["DIVES AKURU LETTER O"]),
   (71948, ["DIVES AKURU LETTER KA;3 KHA;3 GA;3 GHA;3 NGA;3 CA;3 CHA;3 JA"]),
   (71957, ["DIVES AKURU LETTER NYA;3 TTA"]),
   (71960,
    ["DIVES AKURU LETTER DDA;3 DDHA;3 NNA;3 TA;3 THA;3 DA;3 DHA;3 NA;3 PA;3 PHA;3 BA;3 BHA",
     "3 MA;3 YA;3 YYA;3 RA;3 LA;3 VA;3 SHA;3 SSA;3 SA;3 HA;3 LLA;3 ZA;2 VOWEL SIGN AA;4 I;4 II",
     "4 U;4 UU;4 E"]),
   (71991, ["DIVES AKURU VOWEL SIGN AI;4 O"]),
   (71995,
    ["DIVES AKURU SIGN ANUSVARA;3 CANDRABINDU;3 HALANTA;2 VIRAMA;2 PREFIXED NASAL SIGN",
     "2 MEDIAL YA;2 INITIAL RA;2 MEDIAL RA;2 SIGN NUKTA;2 DOUBLE DANDA;2 GAP FILLER",
     "2 END OF TEXT MARK"]),
   (72016,
    ["DIVES AKURU DIGIT ZERO;3 ONE;3 TWO;3 THREE;3 FOUR;3 FIVE;3 SIX;3 SEVEN;3 EIGHT;3 NINE"]),
   (72096, ["NANDINAGARI LETTER A;2 AA;2 I;2 II;2 U;2 UU;2 VOCALIC R;3 RR"]),
   (72106,
    ["NANDINAGARI LETTER E;2 AI;2 O;2 AU;2 KA;2 KHA;2 GA;2 GHA;2 NGA;2 CA;2 CHA;2 JA;2 JHA",
     "2 NYA;2 TTA;2 TTHA;2 DDA;2 DDHA;2 NNA;2 TA;2 THA;2 DA;2 DHA;2 NA;2 PA;2 PHA;2 BA;2 BHA",
     "2 MA;2 YA;2 RA;2 LA;2 VA;2 SHA;2 SSA;2 SA;2 HA;2 LLA;2 RRA;1 VOWEL SIGN AA;3 I;3 II;3 U",
     "3 UU;3 VOCALIC R;4 RR"]),
   (72154,
    ["NANDINAGARI VOWEL SIGN E;3 AI;3 O;3 AU;1 SIGN ANUSVARA;2 VISARGA;2 VIRAMA;2 AVAGRAHA",
     "2 SIDDHAM;1 HEADSTROKE;1 VOWEL SIGN PRISHTHAMATRA E"]),
   (72192,
    ["ZANABAZAR SQUARE LETTER A;2 VOWEL SIGN I;4 UE;4 U;4 E;4 OE;4 O;4 AI;4 AU;4 REVERSED I",
     "3 LENGTH MARK;2 LETTER KA;3 KHA;3 GA;3 GHA;3 NGA;3 CA;3 CHA;3 JA;3 NYA;3 TTA;3 TTHA",
     "3 DDA;3 DDHA;3 NNA;3 TA;3 THA;3 DA;3 DHA;3 NA;3 PA;3 PHA;3 BA;3 BHA;3 MA;3 TSA;3 TSHA",
     "3 DZA;3 DZHA;3 ZHA;3 ZA;3 -A;3 YA;3 RA;3 LA;3 VA;3 SHA;3 SSA;3 SA;3 HA;3 KSSA",
     "2 FINAL CONSONANT MARK;2 SIGN VIRAMA;3 CANDRABINDU;4 WITH ORNAMENT",
     "3 CANDRA WITH ORNAMENT;3 ANUSVARA;3 VISARGA;2 CLUSTER-INITIAL LETTER RA",
     "2 CLUSTER-FINAL LETTER YA;4 RA;4 LA;4 VA;2 INITIAL HEAD MARK;2 CLOSING HEAD MARK",
     "2 MARK TSHEG;3 SHAD;3 DOUBLE SHAD;3 LONG TSHEG;2 INITIAL DOUBLE-LINED HEAD MARK",
     "2 CLOSING DOUBLE-LINED HEAD MARK;2 SUBJOINER"]),
   (72272,
    ["SOYOMBO LETTER A;1 VOWEL SIGN I;3 UE;3 U;3 E;3 O;3 OE;3 AI;3 AU;3 VOCALIC R;4 L",
     "2 LENGTH MARK;1 LETTER KA;2 KHA;2 GA;2 GHA;2 NGA;2 CA;2 CHA;2 JA;2 JHA;2 NYA;2 TTA",
     "2 TTHA;2 DDA;2 DDHA;2 NNA;2 TA;2 THA;2 DA;2 DHA;2 NA;2 PA;2 PHA;2 BA;2 BHA;2 MA;2 TSA",
     "2 TSHA;2 DZA;2 ZHA;2 ZA;2 -A;2 YA;2 RA;2 LA;2 VA;2 SHA;2 SSA;2 SA;2 HA;2 KSSA",
     "1 SIGN JIHVAMULIYA;2 UPADHMANIYA;1 CLUSTER-INITIAL LETTER RA;3 LA;3 SHA;3 SA",
     "1 FINAL CONSONANT SIGN G;4 K;4 NG;4 D;4 N;4 B;4 M;4 R;4 L;4 SH;4 S;4 -A;1 SIGN ANUSVARA",
     "2 VISARGA;1 GEMINATION MARK;1 SUBJOINER;1 MARK TSHEG;2 SHAD;2 DOUBLE SHAD;2 PLUTA",
     "1 HEAD MARK WITH MOON AND SUN AND TRIPLE FLAME;8 FLAME;6 SUN;1 TERMINAL MARK-1;2 MARK-2"]),
   (72368,
    ["CANADIAN SYLLABICS NATTILIK HI;3 HII;3 HO;3 HOO;3 HA;3 HAA;3 SHRI;3 SHRII;3 SHRO;3 SHROO",
     "3 SHRA;3 SHRAA;2 SPE;2 SPI;2 SPO;2 SPA;PAU CIN HAU LETTER PA;4 KA;4 LA;4 MA;4 DA;4 ZA",
     "4 VA;4 NGA;4 HA;4 GA;4 KHA;4 SA;4 BA;4 CA;4 TA;4 THA;4 NA;4 PHA;4 RA;4 FA;4 CHA;4 A;4 E",
     "4 I;4 O;4 U;4 UA;4 IA;4 FINAL P;5 K;5 T;5 M;5 N;5 L;5 W;5 NG;5 Y;3 RISING TONE LONG",
     "4 TONE;3 SANDHI GLOTTAL STOP;3 RISING TONE LONG FINAL;5 FINAL",
     "3 SANDHI GLOTTAL STOP FINAL;4 TONE LONG;4 TONE;5 LONG FINAL;5 FINAL;3 MID-LEVEL TONE",
     "3 GLOTTAL STOP VARIANT;3 MID-LEVEL TONE LONG FINAL;5 FINAL;3 LOW-FALLING TONE LONG",
     "4 TONE;3 GLOTTAL STOP;3 LOW-FALLING TONE LONG FINAL;5 FINAL;3 GLOTTAL STOP FINAL"]),
   (72704, ["BHAIKSUKI LETTER A;2 AA;2 I;2 II;2 U;2 UU;2 VOCALIC R;3 RR;3 L"]),
   (72714,
    ["BHAIKSUKI LETTER E;2 AI;2 O;2 AU;2 KA;2 KHA;2 GA;2 GHA;2 NGA;2 CA;2 CHA;2 JA;2 JHA;2 NYA",
     "2 TTA;2 TTHA;2 DDA;2 DDHA;2 NNA;2 TA;2 THA;2 DA;2 DHA;2 NA;2 PA;2 PHA;2 BA;2 BHA;2 MA",
     "2 YA;2 RA;2 LA;2 VA;2 SHA;2 SSA;2 SA;2 HA;1 VOWEL SIGN AA;3 I;3 II;3 U;3 UU;3 VOCALIC R",
     "4 RR;4 L"]),
   (72760,
    ["BHAIKSUKI VOWEL SIGN E;3 AI;3 O;3 AU;1 SIGN CANDRABINDU;2 ANUSVARA;2 VISARGA;2 VIRAMA",
     "2 AVAGRAHA;1 DANDA;1 DOUBLE DANDA;1 WORD SEPARATOR;1 GAP FILLER-1;2 FILLER-2"]),
   (72784,
    ["BHAIKSUKI DIGIT ZERO;2 ONE;2 TWO;2 THREE;2 FOUR;2 FIVE;2 SIX;2 SEVEN;2 EIGHT;2 NINE",
     "1 NUMBER ONE;2 TWO;2 THREE;2 FOUR;2 FIVE;2 SIX;2 SEVEN;2 EIGHT;2 NINE;2 TEN;2 TWENTY",
     "2 THIRTY;2 FORTY;2 FIFTY;2 SIXTY;2 SEVENTY;2 EIGHTY;2 NINETY;1 HUNDREDS UNIT MARK"]),
   (72816,
    ["MARCHEN HEAD MARK;1 MARK SHAD;1 LETTER KA;2 KHA;2 GA;2 NGA;2 CA;2 CHA;2 JA;2 NYA;2 TA",
     "2 THA;2 DA;2 NA;2 PA;2 PHA;2 BA;2 MA;2 TSA;2 TSHA;2 DZA;2 WA;2 ZHA;2 ZA;2 -A;2 YA;2 RA",
     "2 LA;2 SHA;2 SA;2 HA;2 A"]),
   (72850,
    ["MARCHEN SUBJOINED LETTER KA;3 KHA;3 GA;3 NGA;3 CA;3 CHA;3 JA;3 NYA;3 TA;3 THA;3 DA;3 NA",
     "3 PA;3 PHA;3 BA;3 MA;3 TSA;3 TSHA;3 DZA;3 WA;3 ZHA;3 ZA"]),
   (72873,
    ["MARCHEN SUBJOINED LETTER YA;3 RA;3 LA;3 SHA;3 SA;3 HA;3 A;1 VOWEL SIGN AA;3 I;3 U;3 E",
     "3 O;1 SIGN ANUSVARA;2 CANDRABINDU"]),
   (72960, ["MASARAM GONDI LETTER A;3 AA;3 I;3 II;3 U;3 UU;3 E"]),
   (72968, ["MASARAM GONDI LETTER AI;3 O"]),
   (72971,
    ["MASARAM GONDI LETTER AU;3 KA;3 KHA;3 GA;3 GHA;3 NGA;3 CA;3 CHA;3 JA;3 JHA;3 NYA;3 TTA",
     "3 TTHA;3 DDA;3 DDHA;3 NNA;3 TA;3 THA;3 DA;3 DHA;3 NA;3 PA;3 PHA;3 BA;3 BHA;3 MA;3 YA",
     "3 RA;3 LA;3 VA;3 SHA;3 SSA;3 SA;3 HA;3 LLA;3 KSSA;3 JNYA;3 TRA;2 VOWEL SIGN AA;4 I;4 II",
     "4 U;4 UU;4 VOCALIC R"]),
   (73018, ["MASARAM GONDI VOWEL SIGN E"]),
   (73020, ["MASARAM GONDI VOWEL SIGN AI;4 O"]),
   (73023,
    ["MASARAM GONDI VOWEL SIGN AU;2 SIGN ANUSVARA;3 VISARGA;3 NUKTA;3 CANDRA;3 HALANTA",
     "2 VIRAMA;2 REPHA;2 RA-KARA"]),
   (73040,
    ["MASARAM GONDI DIGIT ZERO;3 ONE;3 TWO;3 THREE;3 FOUR;3 FIVE;3 SIX;3 SEVEN;3 EIGHT;3 NINE"]),
   (73056, ["GUNJALA GONDI LETTER A;3 AA;3 I;3 II;3 U;3 UU"]),
   (73063, ["GUNJALA GONDI LETTER EE;3 AI"]),
   (73066,
    ["GUNJALA GONDI LETTER OO;3 AU;3 YA;3 VA;3 BA;3 BHA;3 MA;3 KA;3 KHA;3 TA;3 THA;3 LA;3 GA",
     "3 GHA;3 DA;3 DHA;3 NA;3 CA;3 CHA;3 TTA;3 TTHA;3 LLA;3 JA;3 JHA;3 DDA;3 DDHA;3 NGA;3 PA",
     "3 PHA;3 HA;3 RA;3 SA;2 VOWEL SIGN AA;4 I;4 II;4 U;4 UU"]),
   (73104, ["GUNJALA GONDI VOWEL SIGN EE;4 AI"]),
   (73107, ["GUNJALA GONDI VOWEL SIGN OO;4 AU;2 SIGN ANUSVARA;3 VISARGA;2 VIRAMA;2 OM"]),
   (73120,
    ["GUNJALA GONDI DIGIT ZERO;3 ONE;3 TWO;3 THREE;3 FOUR;3 FIVE;3 SIX;3 SEVEN;3 EIGHT;3 NINE"]),
   (73440,
    ["MAKASAR LETTER KA;2 GA;2 NGA;2 PA;2 BA;2 MA;2 TA;2 DA;2 NA;2 CA;2 JA;2 NYA;2 YA;2 RA",
     "2 LA;2 VA;2 SA;2 A;1 ANGKA;1 VOWEL SIGN I;3 U;3 E;3 O;1 PASSIMBANG;1 END OF SECTION"]),
   (73648, ["LISU LETTER YHA"]),
   (73664,
    ["TAMIL FRACTION ONE THREE-HUNDRED-AND-TWENTIETH;3 ONE-HUNDRED-AND-SIXTIETH;3 EIGHTIETH",
     "3 SIXTY-FOURTH;3 FORTIETH;3 THIRTY-SECOND;2 THREE EIGHTIETHS;3 SIXTY-FOURTHS",
     "2 ONE TWENTIETH;3 SIXTEENTH-1;3 SIXTEENTH-2;3 TENTH;3 EIGHTH;2 THREE TWENTIETHS",
     "3 SIXTEENTHS;2 ONE FIFTH;3 QUARTER;3 HALF-1;3 HALF-2;2 THREE QUARTERS",
     "2 DOWNSCALING FACTOR KIIZH;1 SIGN NEL;2 CEVITU;2 AAZHAAKKU;2 UZHAKKU;2 MUUVUZHAKKU",
     "2 KURUNI;2 PATHAKKU;2 MUKKURUNI;2 KAACU;2 PANAM;2 PON;2 VARAAKAN;2 PAARAM;2 KUZHI;2 VELI",
     "1 WET CULTIVATION SIGN;1 DRY CULTIVATION SIGN;1 LAND SIGN;1 SALT PAN SIGN",
     "1 TRADITIONAL CREDIT SIGN;2 NUMBER SIGN;1 CURRENT SIGN;1 AND ODD SIGN;1 SPENT SIGN",
     "1 TOTAL SIGN;1 IN POSSESSION SIGN;1 STARTING FROM SIGN;1 SIGN MUTHALIYA;2 VAKAIYARAA"]),
   (73727,
    ["TAMIL PUNCTUATION END OF TEXT;CUNEIFORM SIGN A;3 TIMES A;4 BAD;4 GAN2 TENU;4 HA;4 IGI",
     "4 LAGAR GUNU;4 MUSH;4 SAG;2 A2;2 AB;3 TIMES ASH2;4 DUN3 GUNU;4 GAL;4 GAN2 TENU;4 HA",
     "4 IGI GUNU;4 IMIN;4 LAGAB;4 SHESH;4 U PLUS U PLUS U;3 GUNU;2 AB2;3 TIMES BALAG",
     "4 GAN2 TENU;4 ME PLUS EN;4 SHA3;4 TAK4;2 AD;2 AK;3 TIMES ERIN2;4 SHITA PLUS GISH;2 AL",
     "3 TIMES AL;4 DIM2;4 GISH;4 HA;4 KAD3;4 KI;4 SHE;4 USH;2 ALAN;2 ALEPH;2 AMAR;3 TIMES SHE",
     "2 AN;3 OVER AN;3 THREE TIMES;3 PLUS NAGA OPPOSING AN PLUS NAGA;5 SQUARED;2 ANSHE;2 APIN",
     "2 ARAD;3 TIMES KUR;2 ARKAB;2 ASAL2;2 ASH;3 ZIDA TENU;3 KABA TENU",
     "3 OVER ASH TUG2 OVER TUG2 TUG2 OVER TUG2 PAP;5 OVER ASH;7 CROSSING ASH OVER ASH OVER ASH",
     "2 ASH2;2 ASHGAB;2 BA;2 BAD;2 BAG3;2 BAHAR2;2 BAL;3 OVER BAL;2 BALAG;2 BAR;2 BARA2;2 BI",
     "3 TIMES A;4 GAR;4 IGI GUNU;2 BU;3 OVER BU AB;5 UN;3 CROSSING BU;2 BULUG;3 OVER BULUG",
     "2 BUR;2 BUR2;2 DA;2 DAG;3 KISIM5 TIMES A PLUS MASH;5 AMAR;5 BALAG;5 BI;5 GA;6 PLUS MASH",
     "5 GI;5 GIR2;5 GUD;5 HA;5 IR;6 PLUS LU;5 KAK;5 LA;5 LU;6 PLUS MASH2;5 LUM;5 NE",
     "5 PAP PLUS PAP;5 SI;5 TAK4;5 U2 PLUS GIR2;5 USH;2 DAM;2 DAR;2 DARA3;2 DARA4;2 DI;2 DIB",
     "2 DIM;3 TIMES SHE;2 DIM2;2 DIN;3 KASKAL U GUNU DISH;2 DISH;2 DU;3 OVER DU;3 GUNU",
     "3 SHESHIG;2 DUB;3 TIMES ESH2;2 DUB2;2 DUG;2 DUGUD;2 DUH;2 DUN;2 DUN3;3 GUNU;4 GUNU",
     "2 DUN4;2 DUR2;2 E;3 TIMES PAP;3 OVER E NUN OVER NUN;2 E2;3 TIMES A PLUS HA PLUS DA;4 GAR",
     "4 MI;4 SAL;4 SHE;4 U;2 EDIN;2 EGIR;2 EL;2 EN;3 TIMES GAN2;5 TENU;4 ME;3 CROSSING EN",
     "3 OPPOSING EN;3 SQUARED;2 EREN;2 ERIN2;2 ESH2;2 EZEN;3 TIMES A;5 PLUS LAL;7 TIMES LAL",
     "4 AN;4 BAD;4 DUN3 GUNU;6 GUNU;4 HA;5 GUNU;4 IGI GUNU;4 KASKAL;5 SQUARED;4 KU3;4 LA",
     "4 LAL TIMES LAL;4 LI;4 LU;4 U2;4 UD;2 GA;3 GUNU;2 GA2;3 TIMES A PLUS DA PLUS HA;6 HA",
     "6 IGI;4 AB2 TENU PLUS TAB;4 AN;4 ASH;4 ASH2 PLUS GAL;4 BAD;4 BAR PLUS RA;4 BUR;5 PLUS RA",
     "4 DA;4 DI;4 DIM TIMES SHE;4 DUB;4 EL;5 PLUS LA;4 EN;5 TIMES GAN2 TENU;4 GAN2 TENU;4 GAR",
     "4 GI;4 GI4;5 PLUS A;4 GIR2 PLUS SU;4 HA PLUS LU PLUS ESH2;4 HAL;5 PLUS LA;4 HI PLUS LI",
     "4 HUB2;4 IGI GUNU;4 ISH PLUS HU PLUS ASH;4 KAK;4 KASKAL;4 KID;5 PLUS LAL;4 KU3 PLUS AN",
     "4 LA;4 ME PLUS EN;4 MI;4 NUN;5 OVER NUN;4 PA;4 SAL;4 SAR;4 SHE;5 PLUS TUR;4 SHID;4 SUM",
     "4 TAK4;4 U;4 UD;5 PLUS DU;3 OVER GA2;2 GABA;3 CROSSING GABA;2 GAD",
     "3 OVER GAD GAR OVER GAR;2 GAL;3 GAD OVER GAD GAR OVER GAR;2 GALAM;2 GAM;2 GAN;2 GAN2",
     "3 TENU;3 OVER GAN2;3 CROSSING GAN2;2 GAR;2 GAR3;2 GASHAN;2 GESHTIN;3 TIMES KUR;2 GI",
     "3 TIMES E;4 U;3 CROSSING GI;2 GI4;3 OVER GI4;3 CROSSING GI4;2 GIDIM;2 GIR2;3 GUNU;2 GIR3",
     "3 TIMES A PLUS IGI;4 GAN2 TENU;4 IGI;4 LU PLUS IGI;4 PA;2 GISAL;2 GISH;3 CROSSING GISH",
     "3 TIMES BAD;4 TAK4;3 TENU;2 GU;3 CROSSING GU;2 GU2;3 TIMES KAK;5 TIMES IGI GUNU;4 NUN",
     "4 SAL PLUS TUG2;3 GUNU;2 GUD;3 TIMES A PLUS KUR;4 KUR;3 OVER GUD LUGAL;2 GUL;2 GUM",
     "3 TIMES SHE;2 GUR;2 GUR7;2 GURUN;2 GURUSH;2 HA;3 TENU;3 GUNU;2 HAL;2 HI;3 TIMES ASH",
     "4 ASH2;4 BAD;4 DISH;4 GAD;4 KIN;4 NUN;4 SHE;4 U;2 HU;2 HUB2;3 TIMES AN;4 HAL;4 KASKAL",
     "4 LISH;4 UD;2 HUL2;2 I;3 A;2 IB;2 IDIM;3 OVER IDIM BUR;5 SQUARED;2 IG;2 IGI;3 DIB;3 RI",
     "3 OVER IGI SHIR OVER SHIR UD OVER UD;3 GUNU;2 IL;3 TIMES GAN2 TENU;2 IL2;2 IM",
     "3 TIMES TAK4;3 CROSSING IM;3 OPPOSING IM;3 SQUARED;2 IMIN;2 IN;2 IR;2 ISH;2 KA;3 TIMES A",
     "4 AD;5 PLUS KU3;4 ASH2;4 BAD;4 BALAG;4 BAR;4 BI;4 ERIN2;4 ESH2;4 GA;4 GAL;4 GAN2 TENU",
     "4 GAR;5 PLUS SHA3 PLUS A;4 GI;4 GIR2;4 GISH PLUS SAR;5 CROSSING GISH;4 GU;4 GUR7;4 IGI",
     "4 IM;4 KAK;4 KI;4 KID;4 LI;4 LU;4 ME;5 PLUS DU;6 GI;6 TE;4 MI;5 PLUS NUNUZ;4 NE;4 NUN",
     "4 PI;4 RU;4 SA;4 SAR;4 SHA;4 SHE;4 SHID;4 SHU;4 SIG;4 SUHUR;4 TAR;4 U;4 U2;4 UD",
     "4 UMUM TIMES PA;4 USH;4 ZI;2 KA2;3 CROSSING KA2;2 KAB;2 KAD2;2 KAD3;2 KAD4;2 KAD5",
     "3 OVER KAD5;2 KAK;3 TIMES IGI GUNU;2 KAL;3 TIMES BAD;3 CROSSING KAL;2 KAM2;2 KAM4",
     "2 KASKAL;3 LAGAB TIMES U OVER LAGAB TIMES U",
     "3 OVER KASKAL LAGAB TIMES U OVER LAGAB TIMES U;2 KESH2;2 KI;3 TIMES BAD;4 U;4 UD;2 KID",
     "2 KIN;2 KISAL;2 KISH;2 KISIM5;3 OVER KISIM5;2 KU",
     "3 OVER HI TIMES ASH2 KU OVER HI TIMES ASH2;2 KU3;2 KU4;3 VARIANT FORM;2 KU7;2 KUL;3 GUNU",
     "2 KUN;2 KUR;3 OPPOSING KUR;2 KUSHU2;2 KWU318;2 LA;2 LAGAB;3 TIMES A;5 PLUS DA PLUS HA",
     "6 GAR;6 LAL;4 AL;4 AN;4 ASH ZIDA TENU;4 BAD;4 BI;4 DAR;4 EN;4 GA;4 GAR;4 GUD;5 PLUS GUD",
     "4 HA;4 HAL;4 HI TIMES NUN;4 IGI GUNU;4 IM;5 PLUS HA;6 LU;4 KI;4 KIN;4 KU3;4 KUL",
     "5 PLUS HI PLUS A;4 LAGAB;4 LISH;4 LU;4 LUL;4 ME;5 PLUS EN;4 MUSH;4 NE;4 SHE PLUS SUM",
     "4 SHITA PLUS GISH PLUS ERIN2;7 TENU;4 SHU2;5 PLUS SHU2;4 SUM;4 TAG;4 TAK4",
     "4 TE PLUS A PLUS SU PLUS NA;4 U;5 PLUS A;6 U PLUS U;4 U2 PLUS ASH;4 UD;4 USH;3 SQUARED",
     "2 LAGAR;3 TIMES SHE;5 PLUS SUM;3 GUNU;4 OVER LAGAR GUNU SHE;2 LAHSHU;2 LAL;3 TIMES LAL",
     "2 LAM;3 TIMES KUR;5 PLUS RU;2 LI;2 LIL;2 LIMMU2;2 LISH;2 LU;3 TIMES BAD;2 LU2;3 TIMES AL",
     "4 BAD;4 ESH2;5 TENU;4 GAN2 TENU;4 HI TIMES BAD;4 IM;4 KAD2;4 KAD3;5 PLUS ASH;4 KI",
     "4 LA PLUS ASH;4 LAGAB;4 ME PLUS EN;4 NE;4 NU;4 SI PLUS ASH;4 SIK2 PLUS BU;4 TUG2;3 TENU",
     "3 CROSSING LU2;3 OPPOSING LU2;3 SQUARED;3 SHESHIG;2 LU3;2 LUGAL;3 OVER LUGAL",
     "3 OPPOSING LUGAL;3 SHESHIG;2 LUH;2 LUL;2 LUM;3 OVER LUM;5 GAR OVER GAR;2 MA;3 TIMES TAK4",
     "3 GUNU;2 MA2;2 MAH;2 MAR;2 MASH;2 MASH2;2 ME;2 MES;2 MI;2 MIN;2 MU;3 OVER MU;2 MUG",
     "3 GUNU;2 MUNSUB;2 MURGU2;2 MUSH;3 TIMES A;4 KUR;4 ZA;3 OVER MUSH;5 TIMES A PLUS NA",
     "3 CROSSING MUSH;2 MUSH3;3 TIMES A;5 PLUS DI;4 DI;3 GUNU;2 NA;2 NA2;2 NAGA;3 INVERTED",
     "3 TIMES SHU TENU;3 OPPOSING NAGA;2 NAGAR;2 NAM NUTILLU;2 NAM;2 NAM2;2 NE;3 TIMES A;4 UD",
     "3 SHESHIG;2 NI;3 TIMES E;2 NI2;2 NIM;3 TIMES GAN2 TENU;4 GAR PLUS GAN2 TENU;2 NINDA2",
     "3 TIMES AN;4 ASH;5 PLUS ASH;4 GUD;4 ME PLUS GAN2 TENU;4 NE;4 NUN;4 SHE;5 PLUS A AN;6 ASH",
     "7 PLUS ASH;4 U2 PLUS ASH;4 USH;2 NISAG;2 NU;2 NU11;2 NUN;3 LAGAR TIMES GAR;5 MASH;5 SAL",
     "6 OVER NUN LAGAR TIMES SAL;5 USH;3 TENU;3 OVER NUN;3 CROSSING NUN;5 LAGAR OVER LAGAR",
     "2 NUNUZ;3 AB2 TIMES ASHGAB;5 BI;5 DUG;5 GUD;5 IGI GUNU;5 KAD3;5 LA;5 NE;5 SILA3;5 U2",
     "3 KISIM5 TIMES BI;6 U;2 PA;2 PAD;2 PAN;2 PAP;2 PESH2;2 PI;3 TIMES A;4 AB;4 BI;4 BU;4 E",
     "4 I;4 IB;4 U;4 U2;3 CROSSING PI;2 PIRIG;3 TIMES KAL;4 UD;4 ZA;3 OPPOSING PIRIG;2 RA",
     "2 RAB;2 RI;2 RU;2 SA;2 SAG NUTILLU;2 SAG;3 TIMES A;4 DU;4 DUB;4 HA;4 KAK;4 KUR;4 LUM",
     "4 MI;4 NUN;4 SAL;4 SHID;4 TAB;4 U2;4 UB;4 UM;4 UR;4 USH;3 OVER SAG;3 GUNU;2 SAL",
     "3 LAGAB TIMES ASH2;2 SANGA2;2 SAR;2 SHA;2 SHA3;3 TIMES A;4 BAD;4 GISH;4 NE;4 SHU2;4 TUR",
     "4 U;5 PLUS A;2 SHA6;2 SHAB6;2 SHAR2;2 SHE;3 HU;3 OVER SHE GAD OVER GAD GAR OVER GAR",
     "5 TAB OVER TAB GAR OVER GAR;2 SHEG9;2 SHEN;2 SHESH;2 SHESH2;2 SHESHLAM;2 SHID;3 TIMES A",
     "4 IM;2 SHIM;3 TIMES A;4 BAL;4 BULUG;4 DIN;4 GAR;4 IGI;5 GUNU;4 KUSHU2;4 LUL;4 MUG;4 SAL",
     "2 SHINIG;2 SHIR;3 TENU;3 OVER SHIR BUR OVER BUR;2 SHITA;2 SHU;3 OVER INVERTED SHU;2 SHU2",
     "2 SHUBUR;2 SI;3 GUNU;2 SIG;2 SIG4;3 OVER SIG4 SHU2;2 SIK2;2 SILA3;2 SU;3 OVER SU;2 SUD",
     "2 SUD2;2 SUHUR;2 SUM;2 SUMASH;2 SUR;2 SUR9;2 TA;3 ASTERISK;3 TIMES HI;4 MI;3 GUNU;2 TAB",
     "3 OVER TAB NI OVER NI DISH OVER DISH;3 SQUARED;2 TAG;3 TIMES BI;4 GUD;4 SHE;4 SHU;4 TUG2",
     "4 UD;2 TAK4;2 TAR;2 TE;3 GUNU;2 TI;3 TENU;2 TIL;2 TIR;3 TIMES TAK4;3 OVER TIR",
     "5 GAD OVER GAD GAR OVER GAR;2 TU;2 TUG2;2 TUK;2 TUM;2 TUR;3 OVER TUR ZA OVER ZA;2 U",
     "3 GUD;3 U U;3 OVER U PA OVER PA GAR OVER GAR;5 SUR OVER SUR;5 U REVERSED OVER U REVERSED",
     "2 U2;2 UB;2 UD;3 KUSHU2;3 TIMES BAD;4 MI;4 U PLUS U PLUS U;9 GUNU;3 GUNU;3 SHESHIG",
     "4 TIMES BAD;2 UDUG;2 UM;3 TIMES LAGAB;4 ME PLUS DA;4 SHA3;4 U;2 UMBIN;2 UMUM",
     "3 TIMES KASKAL;4 PA;2 UN;3 GUNU;2 UR;3 CROSSING UR;3 SHESHIG;2 UR2;3 TIMES A PLUS HA",
     "6 NA;4 AL;4 HA;4 NUN;4 U2;5 PLUS ASH;6 BI;2 UR4;2 URI;2 URI3;2 URU;3 TIMES A;4 ASHGAB",
     "4 BAR;4 DUN;4 GA;4 GAL;4 GAN2 TENU;4 GAR;4 GU;4 HA;4 IGI;4 IM;4 ISH;4 KI;4 LUM;4 MIN",
     "4 PA;4 SHE;4 SIG4;4 TU;4 U PLUS GUD;4 UD;4 URUDA;2 URUDA;3 TIMES U;2 USH;3 TIMES A;4 KU",
     "4 KUR;4 TAK4;2 USHX;2 USH2;2 USHUMX;2 UTUKI;2 UZ3;3 TIMES KASKAL;2 UZU;2 ZA;3 TENU",
     "3 SQUARED TIMES KUR;2 ZAG;2 ZAMX;2 ZE2;2 ZI;3 OVER ZI;2 ZI3;2 ZIB;3 KABA TENU;2 ZIG",
     "2 ZIZ2;2 ZU;2 ZU5;3 TIMES A;2 ZUBUR;2 ZUM;2 KAP ELAMITE;2 AB TIMES NUN;2 AB2 TIMES A",
     "2 AMAR TIMES KUG;2 DAG KISIM5 TIMES U2 PLUS MASH;2 DAG3;2 DISH PLUS SHU;2 DUB TIMES SHE",
     "2 EZEN TIMES GUD;4 SHE;2 GA2 TIMES AN PLUS KAK PLUS A;4 ASH2;2 GE22;2 GIG;2 HUSH",
     "2 KA TIMES ANSHE;4 ASH3;4 GISH;4 GUD;4 HI TIMES ASH2;4 LUM;4 PA;4 SHUL;4 TU;4 UR2",
     "2 LAGAB TIMES GI;2 LU2 SHESHIG TIMES BAD;3 TIMES ESH2 PLUS LAL;4 SHU;2 MESH",
     "2 MUSH3 TIMES ZA;2 NA4;2 NIN;2 NIN9;2 NINDA2 TIMES BAL;4 GI",
     "2 NU11 ROTATED NINETY DEGREES;2 PESH2 ASTERISK;2 PIR2;2 SAG TIMES IGI GUNU;2 TI2",
     "2 UM TIMES ME;2 U U"]),
   (74752,
    ["CUNEIFORM NUMERIC SIGN TWO ASH;3 THREE ASH;3 FOUR ASH;3 FIVE ASH;3 SIX ASH;3 SEVEN ASH",
     "3 EIGHT ASH;3 NINE ASH;3 THREE DISH;3 FOUR DISH;3 FIVE DISH;3 SIX DISH;3 SEVEN DISH",
     "3 EIGHT DISH;3 NINE DISH;3 FOUR U;3 FIVE U;3 SIX U;3 SEVEN U;3 EIGHT U;3 NINE U",
     "3 ONE GESH2;3 TWO GESH2;3 THREE GESH2;3 FOUR GESH2;3 FIVE GESH2;3 SIX GESH2",
     "3 SEVEN GESH2;3 EIGHT GESH2;3 NINE GESH2;3 ONE GESHU;3 TWO GESHU;3 THREE GESHU",
     "3 FOUR GESHU;3 FIVE GESHU;3 TWO SHAR2;3 THREE SHAR2;5 VARIANT FORM;3 FOUR SHAR2",
     "3 FIVE SHAR2;3 SIX SHAR2;3 SEVEN SHAR2;3 EIGHT SHAR2;3 NINE SHAR2;3 ONE SHARU",
     "3 TWO SHARU;3 THREE SHARU;5 VARIANT FORM;3 FOUR SHARU;3 FIVE SHARU",
     "3 SHAR2 TIMES GAL PLUS DISH;7 MIN;3 ONE BURU;3 TWO BURU;3 THREE BURU;5 VARIANT FORM",
     "3 FOUR BURU;3 FIVE BURU;3 THREE VARIANT FORM ESH16;6 ESH21;3 FOUR VARIANT FORM LIMMU",
     "6 LIMMU4;6 LIMMU A;7 B;3 SIX VARIANT FORM ASH9;3 SEVEN VARIANT FORM IMIN3;6 IMIN A;7 B",
     "3 EIGHT VARIANT FORM USSU;6 USSU3;3 NINE VARIANT FORM ILIMMU;6 ILIMMU3;6 ILIMMU4",
     "6 ILIMMU A;3 TWO ASH TENU;3 THREE ASH TENU;3 FOUR ASH TENU;3 FIVE ASH TENU",
     "3 SIX ASH TENU;3 ONE BAN2;3 TWO BAN2;3 THREE BAN2;3 FOUR BAN2;5 VARIANT FORM;3 FIVE BAN2",
     "5 VARIANT FORM;3 NIGIDAMIN;3 NIGIDAESH;3 ONE ESHE3;3 TWO ESHE3;3 ONE THIRD DISH",
     "3 TWO THIRDS DISH;3 FIVE SIXTHS DISH;3 ONE THIRD VARIANT FORM A",
     "3 TWO THIRDS VARIANT FORM A;3 ONE EIGHTH ASH;4 QUARTER ASH;3 OLD ASSYRIAN ONE SIXTH",
     "6 QUARTER;3 ONE QUARTER GUR;4 HALF GUR;3 ELAMITE ONE THIRD;4 TWO THIRDS;4 FORTY;4 FIFTY",
     "3 FOUR U VARIANT FORM;3 FIVE U VARIANT FORM;3 SIX U VARIANT FORM;3 SEVEN U VARIANT FORM",
     "3 EIGHT U VARIANT FORM;3 NINE U VARIANT FORM"]),
   (74864,
    ["CUNEIFORM PUNCTUATION SIGN OLD ASSYRIAN WORD DIVIDER;3 VERTICAL COLON;3 DIAGONAL COLON",
     "4 TRICOLON;4 QUADCOLON"]),
   (74880,
    ["CUNEIFORM SIGN AB TIMES NUN TENU;4 SHU2;2 AD TIMES ESH2;2 BAD TIMES DISH TENU",
     "2 BAHAR2 TIMES AB2;4 NI;4 ZA;2 BU OVER BU TIMES NA2;2 DA TIMES TAK4;2 DAG TIMES KUR",
     "2 DIM TIMES IGI;4 U U U;2 DIM2 TIMES UD;2 DUG TIMES ANSHE;4 ASH;5 AT LEFT;4 DIN;4 DUN",
     "4 ERIN2;4 GA;4 GI;4 GIR2 GUNU;4 GISH;4 HA;4 HI;4 IGI GUNU;4 KASKAL;4 KUR;4 KUSHU2",
     "5 PLUS KASKAL;4 LAK-020;4 LAM;5 TIMES KUR;4 LUH PLUS GISH;4 MASH;4 MES;4 MI;4 NI;4 PI",
     "4 SHE;4 SI GUNU;2 E2 TIMES KUR;4 PAP;2 ERIN2 X;2 ESH2 CROSSING ESH2",
     "2 EZEN SHESHIG TIMES ASH;5 HI;5 IGI GUNU;5 LA;5 LAL;5 ME;5 MES;5 SU;3 TIMES SU",
     "2 GA2 TIMES BAHAR2;4 DIM GUNU;4 DUG TIMES IGI GUNU;6 KASKAL;4 EREN;4 GA;4 GAR PLUS DI",
     "6 NE;4 HA PLUS A;4 KUSHU2 PLUS KASKAL;4 LAM;5 TIMES KUR;4 LUH;4 MUSH;4 NE;5 PLUS E2;6 GI",
     "4 SHIM;4 ZIZ2;2 GABA ROTATED NINETY DEGREES;2 GESHTIN TIMES U",
     "2 GISH TIMES GISH CROSSING GISH;2 GU2 TIMES IGI GUNU;2 GUD PLUS GISH TIMES TAK4",
     "2 HA TENU GUNU;2 HI TIMES ASH OVER HI TIMES ASH;2 KA TIMES BU;4 KA;4 U U U;4 UR",
     "2 LAGAB TIMES ZU OVER ZU;2 LAK-003;2 LAK-021;2 LAK-025;2 LAK-030;2 LAK-050;2 LAK-051",
     "2 LAK-062;2 LAK-079 OVER LAK-079 GUNU;2 LAK-080;2 LAK-081 OVER LAK-081;2 LAK-092",
     "2 LAK-130;2 LAK-142;2 LAK-210;2 LAK-219;2 LAK-220;2 LAK-225;2 LAK-228;2 LAK-238",
     "2 LAK-265;2 LAK-266;2 LAK-343;2 LAK-347;2 LAK-348;2 LAK-383;2 LAK-384;2 LAK-390",
     "2 LAK-441;2 LAK-449;3 TIMES GU;4 IGI;4 PAP PLUS LU3;6 PAP PLUS LU3;4 U2 PLUS BA",
     "2 LAK-450;2 LAK-457;2 LAK-470;2 LAK-483;2 LAK-490;2 LAK-492;2 LAK-493;2 LAK-495",
     "2 LAK-550;2 LAK-608;2 LAK-617;3 TIMES ASH;4 BAD;4 DUN3 GUNU GUNU;4 KU3;4 LA;4 TAR;4 TE",
     "4 U2;4 UD;4 URUDA;2 LAK-636;2 LAK-648;3 TIMES DUB;4 GA;4 IGI;5 GUNU;4 NI",
     "4 PAP PLUS PAP PLUS LU3;4 SHESH PLUS KI;4 UD;4 URUDA;2 LAK-724;2 LAK-749",
     "2 LU2 GUNU TIMES ASH;3 TIMES DISH;4 HAL;4 PAP;5 PLUS PAP PLUS LU3;4 TAK4;2 MI PLUS ZA7",
     "2 MUSH OVER MUSH TIMES GA;6 KAK;2 NINDA2 TIMES DIM GUNU;4 GISH;4 GUL;4 HI;4 KESH2",
     "4 LAK-050;4 MASH;4 PAP PLUS PAP;4 U;5 PLUS U;4 URUDA;2 SAG GUNU TIMES HA;3 TIMES EN",
     "4 SHE AT LEFT;4 TAK4;2 SHA6 TENU;2 SHE OVER SHE;3 PLUS HUB2;4 NAM2;4 SAR",
     "2 SHU2 PLUS DUG TIMES NI;4 E2 TIMES AN;2 SI TIMES TAK4;2 TAK4 PLUS SAG",
     "2 TUM TIMES GAN2 TENU;4 THREE DISH;2 UR2 INVERTED;3 TIMES UD;2 URU TIMES DARA3;4 LAK-668",
     "4 LU3;2 ZA7;2 ZU OVER ZU PLUS SAR;2 ZU5 TIMES THREE DISH TENU"]),
   (77712,
    ["CYPRO-MINOAN SIGN CM001;2 CM002;2 CM004;2 CM005;2 CM006;2 CM007;2 CM008;2 CM009;2 CM010",
     "2 CM011;2 CM012;2 CM012B;2 CM013;2 CM015;2 CM017;2 CM019;2 CM021;2 CM023;2 CM024;2 CM025",
     "2 CM026;2 CM027;2 CM028;2 CM029;2 CM030;2 CM033;2 CM034;2 CM035;2 CM036;2 CM037;2 CM038",
     "2 CM039;2 CM040;2 CM041;2 CM044;2 CM046;2 CM047;2 CM049;2 CM050;2 CM051;2 CM052;2 CM053",
     "2 CM054;2 CM055;2 CM056;2 CM058;2 CM059;2 CM060;2 CM061;2 CM062;2 CM063;2 CM064;2 CM066",
     "2 CM067;2 CM068;2 CM069;2 CM070;2 CM071;2 CM072;2 CM073;2 CM074;2 CM075;2 CM075B;2 CM076",
     "2 CM078;2 CM079;2 CM080;2 CM081;2 CM082;2 CM083;2 CM084;2 CM085;2 CM086;2 CM087;2 CM088",
     "2 CM089;2 CM090;2 CM091;2 CM092;2 CM094;2 CM095;2 CM096;2 CM097;2 CM098;2 CM099;2 CM100",
     "2 CM101;2 CM102;2 CM103;2 CM104;2 CM105;2 CM107;2 CM108;2 CM109;2 CM110;2 CM112;2 CM114",
     "2 CM301;2 CM302"]),
   (77824,
    ["EGYPTIAN HIEROGLYPH A001;2 A002;2 A003;2 A004;2 A005;2 A005A;2 A006;2 A006A;2 A006B",
     "2 A007;2 A008;2 A009;2 A010;2 A011;2 A012;2 A013;2 A014;2 A014A;2 A015;2 A016;2 A017",
     "2 A017A;2 A018;2 A019;2 A020;2 A021;2 A022;2 A023;2 A024;2 A025;2 A026;2 A027;2 A028",
     "2 A029;2 A030;2 A031;2 A032;2 A032A;2 A033;2 A034;2 A035;2 A036;2 A037;2 A038;2 A039",
     "2 A040;2 A040A;2 A041;2 A042;2 A042A;2 A043;2 A043A;2 A044;2 A045;2 A045A;2 A046;2 A047",
     "2 A048;2 A049;2 A050;2 A051;2 A052;2 A053;2 A054;2 A055;2 A056;2 A057;2 A058;2 A059",
     "2 A060;2 A061;2 A062;2 A063;2 A064;2 A065;2 A066;2 A067;2 A068;2 A069;2 A070;2 B001",
     "2 B002;2 B003;2 B004;2 B005;2 B005A;2 B006;2 B007;2 B008;2 B009;2 C001;2 C002;2 C002A",
     "2 C002B;2 C002C;2 C003;2 C004;2 C005;2 C006;2 C007;2 C008;2 C009;2 C010;2 C010A;2 C011",
     "2 C012;2 C013;2 C014;2 C015;2 C016;2 C017;2 C018;2 C019;2 C020;2 C021;2 C022;2 C023",
     "2 C024;2 D001;2 D002;2 D003;2 D004;2 D005;2 D006;2 D007;2 D008;2 D008A;2 D009;2 D010",
     "2 D011;2 D012;2 D013;2 D014;2 D015;2 D016;2 D017;2 D018;2 D019;2 D020;2 D021;2 D022",
     "2 D023;2 D024;2 D025;2 D026;2 D027;2 D027A;2 D028;2 D029;2 D030;2 D031;2 D031A;2 D032",
     "2 D033;2 D034;2 D034A;2 D035;2 D036;2 D037;2 D038;2 D039;2 D040;2 D041;2 D042;2 D043",
     "2 D044;2 D045;2 D046;2 D046A;2 D047;2 D048;2 D048A;2 D049;2 D050;2 D050A;2 D050B;2 D050C",
     "2 D050D;2 D050E;2 D050F;2 D050G;2 D050H;2 D050I;2 D051;2 D052;2 D052A;2 D053;2 D054",
     "2 D054A;2 D055;2 D056;2 D057;2 D058;2 D059;2 D060;2 D061;2 D062;2 D063;2 D064;2 D065",
     "2 D066;2 D067;2 D067A;2 D067B;2 D067C;2 D067D;2 D067E;2 D067F;2 D067G;2 D067H;2 E001",
     "2 E002;2 E003;2 E004;2 E005;2 E006;2 E007;2 E008;2 E008A;2 E009;2 E009A;2 E010;2 E011",
     "2 E012;2 E013;2 E014;2 E015;2 E016;2 E016A;2 E017;2 E017A;2 E018;2 E019;2 E020;2 E020A",
     "2 E021;2 E022;2 E023;2 E024;2 E025;2 E026;2 E027;2 E028;2 E028A;2 E029;2 E030;2 E031",
     "2 E032;2 E033;2 E034;2 E034A;2 E036;2 E037;2 E038;2 F001;2 F001A;2 F002;2 F003;2 F004",
     "2 F005;2 F006;2 F007;2 F008;2 F009;2 F010;2 F011;2 F012;2 F013;2 F013A;2 F014;2 F015",
     "2 F016;2 F017;2 F018;2 F019;2 F020;2 F021;2 F021A;2 F022;2 F023;2 F024;2 F025;2 F026",
     "2 F027;2 F028;2 F029;2 F030;2 F031;2 F031A;2 F032;2 F033;2 F034;2 F035;2 F036;2 F037",
     "2 F037A;2 F038;2 F038A;2 F039;2 F040;2 F041;2 F042;2 F043;2 F044;2 F045;2 F045A;2 F046",
     "2 F046A;2 F047;2 F047A;2 F048;2 F049;2 F050;2 F051;2 F051A;2 F051B;2 F051C;2 F052;2 F053",
     "2 G001;2 G002;2 G003;2 G004;2 G005;2 G006;2 G006A;2 G007;2 G007A;2 G007B;2 G008;2 G009",
     "2 G010;2 G011;2 G011A;2 G012;2 G013;2 G014;2 G015;2 G016;2 G017;2 G018;2 G019;2 G020",
     "2 G020A;2 G021;2 G022;2 G023;2 G024;2 G025;2 G026;2 G026A;2 G027;2 G028;2 G029;2 G030",
     "2 G031;2 G032;2 G033;2 G034;2 G035;2 G036;2 G036A;2 G037;2 G037A;2 G038;2 G039;2 G040",
     "2 G041;2 G042;2 G043;2 G043A;2 G044;2 G045;2 G045A;2 G046;2 G047;2 G048;2 G049;2 G050",
     "2 G051;2 G052;2 G053;2 G054;2 H001;2 H002;2 H003;2 H004;2 H005;2 H006;2 H006A;2 H007",
     "2 H008;2 I001;2 I002;2 I003;2 I004;2 I005;2 I005A;2 I006;2 I007;2 I008;2 I009;2 I009A",
     "2 I010;2 I010A;2 I011;2 I011A;2 I012;2 I013;2 I014;2 I015;2 K001;2 K002;2 K003;2 K004",
     "2 K005;2 K006;2 K007;2 K008;2 L001;2 L002;2 L002A;2 L003;2 L004;2 L005;2 L006;2 L006A",
     "2 L007;2 L008;2 M001;2 M001A;2 M001B;2 M002;2 M003;2 M003A;2 M004;2 M005;2 M006;2 M007",
     "2 M008;2 M009;2 M010;2 M010A;2 M011;2 M012;2 M012A;2 M012B;2 M012C;2 M012D;2 M012E",
     "2 M012F;2 M012G;2 M012H;2 M013;2 M014;2 M015;2 M015A;2 M016;2 M016A;2 M017;2 M017A",
     "2 M018;2 M019;2 M020;2 M021;2 M022;2 M022A;2 M023;2 M024;2 M024A;2 M025;2 M026;2 M027",
     "2 M028;2 M028A;2 M029;2 M030;2 M031;2 M031A;2 M032;2 M033;2 M033A;2 M033B;2 M034;2 M035",
     "2 M036;2 M037;2 M038;2 M039;2 M040;2 M040A;2 M041;2 M042;2 M043;2 M044;2 N001;2 N002",
     "2 N003;2 N004;2 N005;2 N006;2 N007;2 N008;2 N009;2 N010;2 N011;2 N012;2 N013;2 N014",
     "2 N015;2 N016;2 N017;2 N018;2 N018A;2 N018B;2 N019;2 N020;2 N021;2 N022;2 N023;2 N024",
     "2 N025;2 N025A;2 N026;2 N027;2 N028;2 N029;2 N030;2 N031;2 N032;2 N033;2 N033A;2 N034",
     "2 N034A;2 N035;2 N035A;2 N036;2 N037;2 N037A;2 N038;2 N039;2 N040;2 N041;2 N042;2 NL001",
     "2 NL002;2 NL003;2 NL004;2 NL005;2 NL005A;2 NL006;2 NL007;2 NL008;2 NL009;2 NL010;2 NL011",
     "2 NL012;2 NL013;2 NL014;2 NL015;2 NL016;2 NL017;2 NL017A;2 NL018;2 NL019;2 NL020;2 NU001",
     "2 NU002;2 NU003;2 NU004;2 NU005;2 NU006;2 NU007;2 NU008;2 NU009;2 NU010;2 NU010A;2 NU011",
     "2 NU011A;2 NU012;2 NU013;2 NU014;2 NU015;2 NU016;2 NU017;2 NU018;2 NU018A;2 NU019",
     "2 NU020;2 NU021;2 NU022;2 NU022A;2 O001;2 O001A;2 O002;2 O003;2 O004;2 O005;2 O005A",
     "2 O006;2 O006A;2 O006B;2 O006C;2 O006D;2 O006E;2 O006F;2 O007;2 O008;2 O009;2 O010",
     "2 O010A;2 O010B;2 O010C;2 O011;2 O012;2 O013;2 O014;2 O015;2 O016;2 O017;2 O018;2 O019",
     "2 O019A;2 O020;2 O020A;2 O021;2 O022;2 O023;2 O024;2 O024A;2 O025;2 O025A;2 O026;2 O027",
     "2 O028;2 O029;2 O029A;2 O030;2 O030A;2 O031;2 O032;2 O033;2 O033A;2 O034;2 O035;2 O036",
     "2 O036A;2 O036B;2 O036C;2 O036D;2 O037;2 O038;2 O039;2 O040;2 O041;2 O042;2 O043;2 O044",
     "2 O045;2 O046;2 O047;2 O048;2 O049;2 O050;2 O050A;2 O050B;2 O051;2 P001;2 P001A;2 P002",
     "2 P003;2 P003A;2 P004;2 P005;2 P006;2 P007;2 P008;2 P009;2 P010;2 P011;2 Q001;2 Q002",
     "2 Q003;2 Q004;2 Q005;2 Q006;2 Q007;2 R001;2 R002;2 R002A;2 R003;2 R003A;2 R003B;2 R004",
     "2 R005;2 R006;2 R007;2 R008;2 R009;2 R010;2 R010A;2 R011;2 R012;2 R013;2 R014;2 R015",
     "2 R016;2 R016A;2 R017;2 R018;2 R019;2 R020;2 R021;2 R022;2 R023;2 R024;2 R025;2 R026",
     "2 R027;2 R028;2 R029;2 S001;2 S002;2 S002A;2 S003;2 S004;2 S005;2 S006;2 S006A;2 S007",
     "2 S008;2 S009;2 S010;2 S011;2 S012;2 S013;2 S014;2 S014A;2 S014B;2 S015;2 S016;2 S017",
     "2 S017A;2 S018;2 S019;2 S020;2 S021;2 S022;2 S023;2 S024;2 S025;2 S026;2 S026A;2 S026B",
     "2 S027;2 S028;2 S029;2 S030;2 S031;2 S032;2 S033;2 S034;2 S035;2 S035A;2 S036;2 S037",
     "2 S038;2 S039;2 S040;2 S041;2 S042;2 S043;2 S044;2 S045;2 S046;2 T001;2 T002;2 T003",
     "2 T003A;2 T004;2 T005;2 T006;2 T007;2 T007A;2 T008;2 T008A;2 T009;2 T009A;2 T010;2 T011",
     "2 T011A;2 T012;2 T013;2 T014;2 T015;2 T016;2 T016A;2 T017;2 T018;2 T019;2 T020;2 T021",
     "2 T022;2 T023;2 T024;2 T025;2 T026;2 T027;2 T028;2 T029;2 T030;2 T031;2 T032;2 T032A",
     "2 T033;2 T033A;2 T034;2 T035;2 T036;2 U001;2 U002;2 U003;2 U004;2 U005;2 U006;2 U006A",
     "2 U006B;2 U007;2 U008;2 U009;2 U010;2 U011;2 U012;2 U013;2 U014;2 U015;2 U016;2 U017",
     "2 U018;2 U019;2 U020;2 U021;2 U022;2 U023;2 U023A;2 U024;2 U025;2 U026;2 U027;2 U028",
     "2 U029;2 U029A;2 U030;2 U031;2 U032;2 U032A;2 U033;2 U034;2 U035;2 U036;2 U037;2 U038",
     "2 U039;2 U040;2 U041;2 U042;2 V001;2 V001A;2 V001B;2 V001C;2 V001D;2 V001E;2 V001F",
     "2 V001G;2 V001H;2 V001I;2 V002;2 V002A;2 V003;2 V004;2 V005;2 V006;2 V007;2 V007A",
     "2 V007B;2 V008;2 V009;2 V010;2 V011;2 V011A;2 V011B;2 V011C;2 V012;2 V012A;2 V012B",
     "2 V013;2 V014;2 V015;2 V016;2 V017;2 V018;2 V019;2 V020;2 V020A;2 V020B;2 V020C;2 V020D",
     "2 V020E;2 V020F;2 V020G;2 V020H;2 V020I;2 V020J;2 V020K;2 V020L;2 V021;2 V022;2 V023",
     "2 V023A;2 V024;2 V025;2 V026;2 V027;2 V028;2 V028A;2 V029;2 V029A;2 V030;2 V030A;2 V031",
     "2 V031A;2 V032;2 V033;2 V033A;2 V034;2 V035;2 V036;2 V037;2 V037A;2 V038;2 V039;2 V040",
     "2 V040A;2 W001;2 W002;2 W003;2 W003A;2 W004;2 W005;2 W006;2 W007;2 W008;2 W009;2 W009A",
     "2 W010;2 W010A;2 W011;2 W012;2 W013;2 W014;2 W014A;2 W015;2 W016;2 W017;2 W017A;2 W018",
     "2 W018A;2 W019;2 W020;2 W021;2 W022;2 W023;2 W024;2 W024A;2 W025;2 X001;2 X002;2 X003",
     "2 X004;2 X004A;2 X004B;2 X005;2 X006;2 X006A;2 X007;2 X008;2 X008A;2 Y001;2 Y001A;2 Y002",
     "2 Y003;2 Y004;2 Y005;2 Y006;2 Y007;2 Y008;2 Z001;2 Z002;2 Z002A;2 Z002B;2 Z002C;2 Z002D",
     "2 Z003;2 Z003A;2 Z003B;2 Z004;2 Z004A;2 Z005;2 Z005A;2 Z006;2 Z007;2 Z008;2 Z009;2 Z010",
     "2 Z011;2 Z012;2 Z013;2 Z014;2 Z015;2 Z015A;2 Z015B;2 Z015C;2 Z015D;2 Z015E;2 Z015F",
     "2 Z015G;2 Z015H;2 Z015I;2 Z016;2 Z016A;2 Z016B;2 Z016C;2 Z016D;2 Z016E;2 Z016F;2 Z016G",
     "2 Z016H;2 AA001;2 AA002;2 AA003;2 AA004;2 AA005;2 AA006;2 AA007;2 AA007A;2 AA007B",
     "2 AA008;2 AA009;2 AA010;2 AA011;2 AA012;2 AA013;2 AA014;2 AA015;2 AA016;2 AA017;2 AA018",
     "2 AA019;2 AA020;2 AA021;2 AA022;2 AA023;2 AA024;2 AA025;2 AA026;2 AA027;2 AA028;2 AA029",
     "2 AA030;2 AA031;2 AA032"]),
   (78896,
    ["EGYPTIAN HIEROGLYPH VERTICAL JOINER;2 HORIZONTAL JOINER;2 INSERT AT TOP START",
     "4 BOTTOM START;4 TOP END;4 BOTTOM END;2 OVERLAY MIDDLE;2 BEGIN SEGMENT;2 END SEGMENT"]),
   (82944,
    ["ANATOLIAN HIEROGLYPH A001;2 A002;2 A003;2 A004;2 A005;2 A006;2 A007;2 A008;2 A009;2 A010",
     "2 A010A;2 A011;2 A012;2 A013;2 A014;2 A015;2 A016;2 A017;2 A018;2 A019;2 A020;2 A021",
     "2 A022;2 A023;2 A024;2 A025;2 A026;2 A026A;2 A027;2 A028;2 A029;2 A030;2 A031;2 A032",
     "2 A033;2 A034;2 A035;2 A036;2 A037;2 A038;2 A039;2 A039A;2 A040;2 A041;2 A041A;2 A042",
     "2 A043;2 A044;2 A045;2 A045A;2 A046;2 A046A;2 A046B;2 A047;2 A048;2 A049;2 A050;2 A051",
     "2 A052;2 A053;2 A054;2 A055;2 A056;2 A057;2 A058;2 A059;2 A060;2 A061;2 A062;2 A063",
     "2 A064;2 A065;2 A066;2 A066A;2 A066B;2 A066C;2 A067;2 A068;2 A069;2 A070;2 A071;2 A072",
     "2 A073;2 A074;2 A075;2 A076;2 A077;2 A078;2 A079;2 A080;2 A081;2 A082;2 A083;2 A084",
     "2 A085;2 A086;2 A087;2 A088;2 A089;2 A090;2 A091;2 A092;2 A093;2 A094;2 A095;2 A096",
     "2 A097;2 A097A;2 A098;2 A098A;2 A099;2 A100;2 A100A;2 A101;2 A101A;2 A102;2 A102A;2 A103",
     "2 A104;2 A104A;2 A104B;2 A104C;2 A105;2 A105A;2 A105B;2 A106;2 A107;2 A107A;2 A107B",
     "2 A107C;2 A108;2 A109;2 A110;2 A110A;2 A110B;2 A111;2 A112;2 A113;2 A114;2 A115;2 A115A",
     "2 A116;2 A117;2 A118;2 A119;2 A120;2 A121;2 A122;2 A123;2 A124;2 A125;2 A125A;2 A126",
     "2 A127;2 A128;2 A129;2 A130;2 A131;2 A132;2 A133;2 A134;2 A135;2 A135A;2 A136;2 A137",
     "2 A138;2 A139;2 A140;2 A141;2 A142;2 A143;2 A144;2 A145;2 A146;2 A147;2 A148;2 A149",
     "2 A150;2 A151;2 A152;2 A153;2 A154;2 A155;2 A156;2 A157;2 A158;2 A159;2 A160;2 A161",
     "2 A162;2 A163;2 A164;2 A165;2 A166;2 A167;2 A168;2 A169;2 A170;2 A171;2 A172;2 A173",
     "2 A174;2 A175;2 A176;2 A177;2 A178;2 A179;2 A180;2 A181;2 A182;2 A183;2 A184;2 A185",
     "2 A186;2 A187;2 A188;2 A189;2 A190;2 A191;2 A192;2 A193;2 A194;2 A195;2 A196;2 A197",
     "2 A198;2 A199;2 A200;2 A201;2 A202;2 A202A;2 A202B;2 A203;2 A204;2 A205;2 A206;2 A207",
     "2 A207A;2 A208;2 A209;2 A209A;2 A210;2 A211;2 A212;2 A213;2 A214;2 A215;2 A215A;2 A216",
     "2 A216A;2 A217;2 A218;2 A219;2 A220;2 A221;2 A222;2 A223;2 A224;2 A225;2 A226;2 A227",
     "2 A227A;2 A228;2 A229;2 A230;2 A231;2 A232;2 A233;2 A234;2 A235;2 A236;2 A237;2 A238",
     "2 A239;2 A240;2 A241;2 A242;2 A243;2 A244;2 A245;2 A246;2 A247;2 A248;2 A249;2 A250",
     "2 A251;2 A252;2 A253;2 A254;2 A255;2 A256;2 A257;2 A258;2 A259;2 A260;2 A261;2 A262",
     "2 A263;2 A264;2 A265;2 A266;2 A267;2 A267A;2 A268;2 A269;2 A270;2 A271;2 A272;2 A273",
     "2 A274;2 A275;2 A276;2 A277;2 A278;2 A279;2 A280;2 A281;2 A282;2 A283;2 A284;2 A285",
     "2 A286;2 A287;2 A288;2 A289;2 A289A;2 A290;2 A291;2 A292;2 A293;2 A294;2 A294A;2 A295",
     "2 A296;2 A297;2 A298;2 A299;2 A299A;2 A300;2 A301;2 A302;2 A303;2 A304;2 A305;2 A306",
     "2 A307;2 A308;2 A309;2 A309A;2 A310;2 A311;2 A312;2 A313;2 A314;2 A315;2 A316;2 A317",
     "2 A318;2 A319;2 A320;2 A321;2 A322;2 A323;2 A324;2 A325;2 A326;2 A327;2 A328;2 A329",
     "2 A329A;2 A330;2 A331;2 A332A;2 A332B;2 A332C;2 A333;2 A334;2 A335;2 A336;2 A336A",
     "2 A336B;2 A336C;2 A337;2 A338;2 A339;2 A340;2 A341;2 A342;2 A343;2 A344;2 A345;2 A346",
     "2 A347;2 A348;2 A349;2 A350;2 A351;2 A352;2 A353;2 A354;2 A355;2 A356;2 A357;2 A358",
     "2 A359;2 A359A;2 A360;2 A361;2 A362;2 A363;2 A364;2 A364A;2 A365;2 A366;2 A367;2 A368",
     "2 A368A;2 A369;2 A370;2 A371;2 A371A;2 A372;2 A373;2 A374;2 A375;2 A376;2 A377;2 A378",
     "2 A379;2 A380;2 A381;2 A381A;2 A382;2 A383 RA OR RI;2 A383A;2 A384;2 A385;2 A386;2 A386A",
     "2 A387;2 A388;2 A389;2 A390;2 A391;2 A392;2 A393 EIGHT;2 A394;2 A395;2 A396;2 A397",
     "2 A398;2 A399;2 A400;2 A401;2 A402;2 A403;2 A404;2 A405;2 A406;2 A407;2 A408;2 A409",
     "2 A410 BEGIN LOGOGRAM MARK;2 A410A END LOGOGRAM MARK;2 A411;2 A412;2 A413;2 A414;2 A415",
     "2 A416;2 A417;2 A418;2 A419;2 A420;2 A421;2 A422;2 A423;2 A424;2 A425;2 A426;2 A427",
     "2 A428;2 A429;2 A430;2 A431;2 A432;2 A433;2 A434;2 A435;2 A436;2 A437;2 A438;2 A439",
     "2 A440;2 A441;2 A442;2 A443;2 A444;2 A445;2 A446;2 A447;2 A448;2 A449;2 A450;2 A450A",
     "2 A451;2 A452;2 A453;2 A454;2 A455;2 A456;2 A457;2 A457A;2 A458;2 A459;2 A460;2 A461",
     "2 A462;2 A463;2 A464;2 A465;2 A466;2 A467;2 A468;2 A469;2 A470;2 A471;2 A472;2 A473",
     "2 A474;2 A475;2 A476;2 A477;2 A478;2 A479;2 A480;2 A481;2 A482;2 A483;2 A484;2 A485",
     "2 A486;2 A487;2 A488;2 A489;2 A490;2 A491;2 A492;2 A493;2 A494;2 A495;2 A496;2 A497",
     "2 A501;2 A502;2 A503;2 A504;2 A505;2 A506;2 A507;2 A508;2 A509;2 A510;2 A511;2 A512",
     "2 A513;2 A514;2 A515;2 A516;2 A517;2 A518;2 A519;2 A520;2 A521;2 A522;2 A523;2 A524",
     "2 A525;2 A526;2 A527;2 A528;2 A529;2 A530"])]

end SchemaAlgebra.Text.CharacterName
