import SchemaAlgebra.Text.CharacterName.Block

/-!
The names of the remaining characters: late scripts, musical and mathematical signs, pictographs
and tags.
-/

namespace SchemaAlgebra.Text.CharacterName

/-- Names of characters from the code point 90112 on. -/
def pictureBlocks : List Block :=
  [(92160,
    ["BAMUM LETTER PHASE-A NGKUE MFON;3 GBIEE FON;3 PON MFON PIPAEMGBIEE;5 PIPAEMBA;3 NAA MFON",
     "3 SHUENSHUET;3 TITA MFON;3 NZA MFON;3 SHINDA PA NJI;3 PON PA NJI PIPAEMGBIEE;6 PIPAEMBA",
     "3 MAEMBGBIEE;3 TU MAEMBA;3 NGANGU;3 MAEMVEUX;3 MANSUAE;3 MVEUAENGAM;3 SEUNYAM;3 NTOQPEN",
     "3 KEUKEUTNDA;3 NKINDI;3 SUU;3 NGKUENZEUM;3 LAPAQ;3 LET KUT;3 NTAP MFAA;3 MAEKEUP",
     "3 PASHAE;3 GHEUAERAE;3 PAMSHAE;3 MON NGGEUAET;3 NZUN MEUT;3 U YUQ NAE;3 GHEUAEGHEUAE",
     "3 NTAP NTAA;3 SISA;3 MGBASA;3 MEUNJOMNDEUQ;3 MOOMPUQ;3 KAFA;3 PA LEERAEWA;3 NDA LEERAEWA",
     "3 PET;3 MAEMKPEN;3 NIKA;3 PUP;3 TUAEP;3 LUAEP;3 SONJAM;3 TEUTEUWEN;3 MAENYI;3 KET",
     "3 NDAANGGEUAET;3 KUOQ;3 MOOMEUT;3 SHUM;3 LOMMAE;3 FIRI;3 ROM;3 KPOQ;3 SOQ;3 MAP PIEET",
     "3 SHIRAE;3 NTAP;3 SHOQ NSHUT YUM;3 NYIT MONGKEUAEQ;3 PAARAE;3 NKAARAE;3 UNKNOWN;3 NGGEN",
     "3 MAESI;3 NJAM;3 MBANYI;3 NYET;3 TEUAEN;3 SOT;3 PAAM;3 NSHIEE;3 MAEM;3 NYI;3 KAQ;3 NSHA",
     "3 VEE;3 LU;3 NEN;3 NAQ;3 MBAQ;2 PHASE-B NSHUET;3 TU MAEMGBIEE;3 SIEE;3 SET TU",
     "3 LOM NTEUM;3 MBA MAELEE;3 KIEEM;3 YEURAE;3 MBAARAE;3 KAM;3 PEESHI;3 YAFU LEERAEWA",
     "3 LAM NSHUT NYAM;3 NTIEE SHEUOQ;3 NDU NJAA;3 GHEUGHEUAEM;3 PIT;3 TU NSIEE;3 SHET NJAQ",
     "3 SHEUAEQTU;3 MFON TEUAEQ;3 MBIT MBAAKET;3 NYI NTEUM;3 KEUPUQ;3 GHEUGHEN;3 KEUYEUX",
     "3 LAANAE;3 PARUM;3 VEUM;3 NGKINDI MVOP;3 NGGEU MBU;3 WUAET;3 SAKEUAE;3 TAAM;3 MEUQ",
     "3 NGGUOQ;4 LARGE;3 MFIYAQ;3 SUE;3 MBEURI;3 MONTIEEN;3 NYAEMAE;3 PUNGAAM;3 MEUT NGGEET",
     "3 FEUX;3 MBUOQ;3 FEE;3 KEUAEM;3 MA NJEUAENA;4 NJUQA;3 LET;3 NGGAAM;3 NSEN;3 MA;3 KIQ",
     "3 NGOM;2 PHASE-C NGKUE MAEMBA;3 NZA;3 YUM;3 WANGKUOQ;3 NGGEN;3 NDEUAEREE;3 NGKAQ",
     "3 GHARAE;3 MBEEKEET;3 GBAYI;3 NYIR MKPARAQ MEUN;3 NTU MBIT;3 MBEUM;3 PIRIEEN;3 NDOMBU",
     "3 MBAA CABBAGE-TREE;3 KEUSHEUAEP;3 GHAP;3 KEUKAQ;3 YU MUOMAE;3 NZEUM;3 MBUE;3 NSEUAEN",
     "3 MBIT;3 YEUQ;3 KPARAQ;3 KAA;3 SEUX;3 NDIDA;3 TAASHAE;3 NJUEQ;3 TITA YUE;3 SUAET",
     "3 NGGUAEN NYAM;3 VEUX;3 NANSANAQ;3 MA KEUAERI;3 NTAA;3 NGGUON;3 LAP;3 MBIRIEEN;3 MGBASAQ",
     "3 NTEUNGBA;3 TEUTEUX;3 NGGUM;3 FUE;3 NDEUT;3 NSA;3 NSHAQ;3 BUNG;3 VEUAEPEN;3 MBERAE;3 RU",
     "3 NJAEM;3 LAM;3 TITUAEP;3 NSUOT NGOM;3 NJEEEE;3 KET;3 NGGU;3 MAESI;3 MBUAEM;3 LU;3 KUT",
     "3 NJAM;3 NGOM;3 WUP;3 NGGUEET;3 NSOM;3 NTEN;3 KUOP NKAARAE;3 NSUN;3 NDAM;3 MA NSIEE",
     "3 YAA;3 NDAP;3 SHUEQ;3 SETFON;3 MBI;3 MAEMBA;3 MBANYI;3 KEUSEUX;3 MBEUX;3 KEUM",
     "3 MBAA PICKET;3 YUWOQ;3 NJEUX;3 MIEE;3 MUAE;3 SHIQ;3 KEN LAW;4 FATIGUE;3 NGAQ;3 NAQ",
     "3 LIQ;3 PIN;3 PEN;3 TET;2 PHASE-D MBUO;3 WAP;3 NJI;3 MFON;3 NJIEE;3 LIEE;3 NJEUT;3 NSHEE",
     "3 NGGAAMAE;3 NYAM;3 WUAEN;3 NGKUN;3 SHEE;3 NGKAP;3 KEUAETMEUN;3 TEUT;3 SHEUAE;3 NJAP",
     "3 SUE;3 KET;3 YAEMMAE;3 KUOM;3 SAP;3 MFEUT;3 NDEUX;3 MALEERI;3 MEUT;3 SEUAEQ;3 YEN",
     "3 NJEUAEM;3 KEUOT MBUAE;3 NGKEURI;3 TU;3 GHAA;3 NGKYEE;3 FEUFEUAET;3 NDEE;3 MGBOFUM",
     "3 LEUAEP;3 NDON;3 MONI;3 MGBEUN;3 PUUT;3 MGBIEE;3 MFO;3 LUM;3 NSIEEP;3 MBAA;3 KWAET",
     "3 NYET;3 TEUAEN;3 SOT;3 YUWOQ;3 KEUM;3 RAEM;3 TEEEE;3 NGKEUAEQ;3 MFEUAE;3 NSIEET;3 KEUP",
     "3 PIP;3 PEUTAE;3 NYUE;3 LET;3 NGGAAM;3 MFIEE;3 NGGWAEN;3 YUOM;3 PAP;3 YUOP;3 NDAM",
     "3 NTEUM;3 SUAE;3 KUN;3 NGGEUX;3 NGKIEE;3 TUOT;3 MEUN;3 KUQ;3 NSUM;3 TEUN;3 MAENJET",
     "3 NGGAP;3 LEUM;3 NGGUOM;3 NSHUT;3 NJUEQ;3 GHEUAE;3 KU;3 REN OLD;3 TAE;3 TOQ;3 NYI;3 RII",
     "3 LEEEE;3 MEEEE;3 M;3 SUU;3 MU;3 SHII;3 SHEUX;3 KYEE;3 NU;3 SHU;3 NTEE;3 PEE;3 NI;3 SHOQ",
     "3 PUQ;3 MVOP;3 LOQ;3 REN MUCH;3 TI;3 NTUU;3 MBAA SEVEN;3 SAQ;3 FAA;2 PHASE-E NDAP;3 TOON",
     "3 MBEUM;3 LAP;3 VOM;3 LOON;3 PAA;3 SOM;3 RAQ;3 NSHUOP;3 NDUN;3 PUAE;3 TAM;3 NGKA;3 KPEUX",
     "3 WUO;3 SEE;3 NGGEUAET;3 PAAM;3 TOO;3 KUOP;3 LOM;3 NSHIEE;3 NGOP;3 MAEM;3 NGKEUX;3 NGOQ",
     "3 NSHUE;3 RIMGBA;3 NJEUX;3 PEEM;3 SAA;3 NGGURAE;3 MGBA;3 GHEUX;3 NGKEUAEM;3 NJAEMLI",
     "3 MAP;3 LOOT;3 NGGEEEE;3 NDIQ;3 TAEN NTEUM;3 SET;3 PUM;3 NDAA SOFTNESS;3 NGGUAESHAE NYAM",
     "3 YIEE;3 GHEUN;3 TUAE;3 YEUAE;3 PO;3 TUMAE;3 KEUAE;3 SUAEN;3 TEUAEQ;3 VEUAE;3 WEUX",
     "3 LAAM;3 PU;3 TAAQ;3 GHAAMAE;3 NGEUREUT;3 SHEUAEQ;3 MGBEN;3 MBEE;3 NZAQ;3 NKOM;3 GBET",
     "3 TUM;3 KUET;3 YAP;3 NYI CLEAVER;3 YIT;3 MFEUQ;3 NDIAQ;3 PIEEQ;3 YUEQ;3 LEUAEM;3 FUE",
     "3 GBEUX;3 NGKUP;3 KET;3 MAE;3 NGKAAMI;3 GHET;3 FA;3 NTUM;3 PEUT;3 YEUM;3 NGGEUAE",
     "3 NYI BETWEEN;3 NZUQ;3 POON;3 MIEE;3 FUET;3 NAE;3 MUAE;3 GHEUAE;3 FU I;3 MVI;3 PUAQ",
     "3 NGKUM;3 KUT;3 PIET;3 NTAP;3 YEUAET;3 NGGUP;3 PA PEOPLE;3 FU CALL;3 FOM;3 NJEE;3 A",
     "3 TOQ;3 O;3 I;3 LAQ;3 PA PLURAL;3 TAA;3 TAQ;3 NDAA MY HOUSE;3 SHIQ;3 YEUX;3 NGUAE",
     "3 YUAEN;3 YOQ SWIMMING;4 COVER;3 YUQ;3 YUN;3 KEUX;3 PEUX;3 NJEE EPOCH;3 PUE;3 WUE;3 FEE",
     "3 VEE;3 LU;3 MI;3 REUX;3 RAE;3 NGUAET;3 NGA;3 SHO;3 SHOQ;3 FU REMEDY;3 NA;3 PI;3 LOQ",
     "3 KO;3 MEN;3 MA;3 MAQ;3 TEU;3 KI;3 MON;3 TEN;3 FAQ;3 GHOM;2 PHASE-F KA;3 U;3 KU;3 EE",
     "3 REE;3 TAE;3 NYI;3 LA;3 RII;3 RIEE;3 MEEEE;3 TAA;3 NDAA;3 NJAEM;3 M;3 SUU;3 SHII;3 SI",
     "3 SEUX;3 KYEE;3 KET;3 NUAE;3 NU;3 NJUAE;3 YOQ;3 SHU;3 YA;3 NSHA;3 PEUX;3 NTEE;3 WUE",
     "3 PEE;3 RU;3 NI;3 REUX;3 KEN;3 NGKWAEN;3 NGGA;3 SHO;3 PUAE;3 FOM;3 WA;3 LI;3 LOQ;3 KO",
     "3 MBEN;3 REN;3 MA;3 MO;3 MBAA;3 TET;3 KPA;3 SAMBA;3 VUEQ"]),
   (92736,
    ["MRO LETTER TA;2 NGI;2 YO;2 MIM;2 BA;2 DA;2 A;2 PHI;2 KHAI;2 HAO;2 DAI;2 CHU;2 KEAAE;2 OL",
     "2 MAEM;2 NIN;2 PA;2 OO;2 O;2 RO;2 SHI;2 THEA;2 EA;2 WA;2 E;2 KO;2 LAN;2 LA;2 HAI;2 RI",
     "2 TEK"]),
   (92768, ["MRO DIGIT ZERO;2 ONE;2 TWO;2 THREE;2 FOUR;2 FIVE;2 SIX;2 SEVEN;2 EIGHT;2 NINE"]),
   (92782,
    ["MRO DANDA;1 DOUBLE DANDA;TANGSA LETTER OZ;2 OC;2 OQ;2 OX;2 AZ;2 AC;2 AQ;2 AX;2 VZ;2 VC",
     "2 VQ;2 VX;2 EZ;2 EC;2 EQ;2 EX;2 IZ;2 IC;2 IQ;2 IX;2 UZ;2 UC;2 UQ;2 UX;2 AWZ;2 AWC;2 AWQ",
     "2 AWX;2 UIZ;2 UIC;2 UIQ;2 UIX;2 FINAL NG;2 LONG UEX;2 SHORT UEZ;3 AWX;2 UEC;2 UEZ;2 UEQ",
     "2 UEX;2 UIUZ;2 UIUC;2 UIUQ;2 UIUX;2 MZ;2 MC;2 MQ;2 MX;2 KA;2 KHA;2 GA;2 NGA;2 SA;2 YA",
     "2 WA;2 PA;2 NYA;2 PHA;2 BA;2 MA;2 NA;2 HA;2 LA;2 HTA;2 TA;2 DA;2 RA;2 NHA;2 SHA;2 CA",
     "2 TSA;2 GHA;2 HTTA;2 THA;2 XA;2 FA;2 DHA;2 CHA;2 ZA"]),
   (92864, ["TANGSA DIGIT ZERO;2 ONE;2 TWO;2 THREE;2 FOUR;2 FIVE;2 SIX;2 SEVEN;2 EIGHT;2 NINE"]),
   (92880,
    ["BASSA VAH LETTER ENNI;3 KA;3 SE;3 FA;3 MBE;3 YIE;3 GAH;3 DHII;3 KPAH;3 JO;3 HWAH;3 WA",
     "3 ZO;3 GBU;3 DO;3 CE;3 UWU;3 TO;3 BA;3 VU;3 YEIN;3 PA;3 WADDA;3 A;3 O;3 OO;3 U;3 EE;3 E",
     "3 I"]),
   (92912,
    ["BASSA VAH COMBINING HIGH TONE;3 LOW TONE;3 MID TONE;3 LOW-MID TONE;3 HIGH-LOW TONE",
     "2 FULL STOP"]),
   (92928,
    ["PAHAWH HMONG VOWEL KEEB;3 KEEV;3 KIB;3 KIV;3 KAUB;3 KAUV;3 KUB;3 KUV;3 KEB;3 KEV;3 KAIB",
     "3 KAIV;3 KOOB;3 KOOV;3 KAWB;3 KAWV;3 KUAB;3 KUAV;3 KOB;3 KOV;3 KIAB;3 KIAV;3 KAB;3 KAV",
     "3 KWB;3 KWV;3 KAAB;3 KAAV;2 CONSONANT VAU;3 NTSAU;3 LAU;3 HAU;3 NLAU;3 RAU;3 NKAU;3 QHAU",
     "3 YAU;3 HLAU;3 MAU;3 CHAU;3 NCHAU;3 HNAU;3 PLHAU;3 NTHAU;3 NAU;3 AU;3 XAU;3 CAU",
     "2 MARK CIM TUB;4 SO;4 KES;4 KHAV;4 SUAM;4 HOM;4 TAUM;2 SIGN VOS THOM;4 TSHAB CEEB",
     "3 CIM CHEEM;3 VOS THIAB;4 FEEM;3 XYEEM NTXIV;4 RHO;4 TOV;4 FAIB;3 VOS SEEV;3 MEEJ SUAB",
     "3 VOS NRUA;3 IB YAM;3 XAUS;3 CIM TSOV ROG"]),
   (93008,
    ["PAHAWH HMONG DIGIT ZERO;3 ONE;3 TWO;3 THREE;3 FOUR;3 FIVE;3 SIX;3 SEVEN;3 EIGHT;3 NINE"]),
   (93019,
    ["PAHAWH HMONG NUMBER TENS;3 HUNDREDS;3 TEN THOUSANDS;3 MILLIONS;3 HUNDRED MILLIONS",
     "3 TEN BILLIONS;3 TRILLIONS"]),
   (93027,
    ["PAHAWH HMONG SIGN VOS LUB;3 XYOO;3 HLI;3 THIRD-STAGE HLI;3 ZWJ THAJ;3 HNUB;3 NQIG;3 XIAB",
     "3 NTUJ;3 AV;3 TXHEEJ CEEV;3 MEEJ TSEEB;3 TAU;3 LOS;3 MUS;3 CIM HAIS LUS NTOG NTOG",
     "4 CUAM TSHOOJ;4 TXWV;5 CHWV;4 PUB DAWB;4 NRES TOS"]),
   (93053,
    ["PAHAWH HMONG CLAN SIGN TSHEEJ;4 YEEG;4 LIS;4 LAUJ;4 XYOOJ;4 KOO;4 HAWJ;4 MUAS;4 THOJ",
     "4 TSAB;4 PHAB;4 KHAB;4 HAM;4 VAJ;4 FAJ;4 YAJ;4 TSWB;4 KWM;4 VWJ"]),
   (93760,
    ["MEDEFAIDRIN CAPITAL LETTER M;3 S;3 V;3 W;3 ATIU;3 Z;3 KP;3 P;3 T;3 G;3 F;3 I;3 K;3 A;3 J",
     "3 E;3 B;3 C;3 U;3 YU;3 L;3 Q;3 HP;3 NY;3 X;3 D;3 OE;3 N;3 R;3 O;3 AI;3 Y",
     "1 SMALL LETTER M;3 S;3 V;3 W;3 ATIU;3 Z;3 KP;3 P;3 T;3 G;3 F;3 I;3 K;3 A;3 J;3 E;3 B;3 C",
     "3 U;3 YU;3 L;3 Q;3 HP;3 NY;3 X;3 D;3 OE;3 N;3 R;3 O;3 AI;3 Y;1 DIGIT ZERO;2 ONE;2 TWO",
     "2 THREE;2 FOUR;2 FIVE;2 SIX;2 SEVEN;2 EIGHT;2 NINE;1 NUMBER TEN;2 ELEVEN;2 TWELVE",
     "2 THIRTEEN;2 FOURTEEN;2 FIFTEEN;2 SIXTEEN;2 SEVENTEEN;2 EIGHTEEN;2 NINETEEN",
     "1 DIGIT ONE ALTERNATE FORM;2 TWO ALTERNATE FORM;2 THREE ALTERNATE FORM;1 COMMA",
     "1 FULL STOP;1 SYMBOL AIVA;1 EXCLAMATION OH"]),
   (93952,
    ["MIAO LETTER PA;2 BA;2 YI PA;2 PLA;2 MA;2 MHA;2 ARCHAIC MA;2 FA;2 VA;2 VFA;2 TA;2 DA",
     "2 YI TTA;3 TA;2 TTA;2 DDA;2 NA;2 NHA;2 YI NNA;2 ARCHAIC NA;2 NNA;2 NNHA;2 LA;2 LYA;2 LHA",
     "2 LHYA;2 TLHA;2 DLHA;2 TLHYA;2 DLHYA;2 KA;2 GA;2 YI KA;2 QA;2 QGA;2 NGA;2 NGHA",
     "2 ARCHAIC NGA;2 HA;2 XA;2 GHA;2 GHHA;2 TSSA;2 DZZA;2 NYA;2 NYHA;2 TSHA;2 DZHA;2 YI TSHA",
     "3 DZHA;2 REFORMED TSHA;2 SHA;2 SSA;2 ZHA;2 ZSHA;2 TSA;2 DZA;2 YI TSA;2 SA;2 ZA;2 ZSA",
     "2 ZZA;2 ZZSA;2 ARCHAIC ZZA;2 ZZYA;2 ZZSYA;2 WA;2 AH;2 HHA;2 BRI;2 SYI;2 DZYI;2 TE;2 TSE",
     "2 RTE"]),
   (94031,
    ["MIAO SIGN CONSONANT MODIFIER BAR;1 LETTER NASALIZATION;1 SIGN ASPIRATION",
     "2 REFORMED VOICING;3 ASPIRATION;1 VOWEL SIGN A;3 AA;3 AHH;3 AN;3 ANG;3 O;3 OO;3 WO;3 W",
     "3 E;3 EN;3 ENG;3 OEY;3 I;3 IA;3 IAN;3 IANG;3 IO;3 IE;3 II;3 IU;3 ING;3 U;3 UA;3 UAN",
     "3 UANG;3 UU;3 UEI;3 UNG;3 Y;3 YI;3 AE;3 AEE;3 ERR;3 ROUNDED ERR;3 ER;3 ROUNDED ER;3 AI",
     "3 EI;3 AU;3 OU;3 N;3 NG;3 UOG;3 YUI;3 OG;3 OER;3 VW;3 IG;3 EA;3 IONG;3 UI"]),
   (94095,
    ["MIAO TONE RIGHT;2 TOP RIGHT;2 ABOVE;2 BELOW;1 LETTER TONE-2;2 TONE-3;2 TONE-4;2 TONE-5",
     "2 TONE-6;2 TONE-7;2 TONE-8;2 REFORMED TONE-1;3 TONE-2;3 TONE-4;3 TONE-5;3 TONE-6",
     "3 TONE-8"]),
   (94176,
    ["TANGUT ITERATION MARK;NUSHU ITERATION MARK;OLD CHINESE HOOK MARK;2 ITERATION MARK",
     "KHITAN SMALL SCRIPT FILLER"]),
   (94192, ["VIETNAMESE ALTERNATE READING MARK CA;4 NHAY"]),
   (100352,
    ["TANGUT COMPONENT-001;1 COMPONENT-002;1 COMPONENT-003;1 COMPONENT-004;1 COMPONENT-005",
     "1 COMPONENT-006;1 COMPONENT-007;1 COMPONENT-008;1 COMPONENT-009;1 COMPONENT-010",
     "1 COMPONENT-011;1 COMPONENT-012;1 COMPONENT-013;1 COMPONENT-014;1 COMPONENT-015",
     "1 COMPONENT-016;1 COMPONENT-017;1 COMPONENT-018;1 COMPONENT-019;1 COMPONENT-020",
     "1 COMPONENT-021;1 COMPONENT-022;1 COMPONENT-023;1 COMPONENT-024;1 COMPONENT-025",
     "1 COMPONENT-026;1 COMPONENT-027;1 COMPONENT-028;1 COMPONENT-029;1 COMPONENT-030",
     "1 COMPONENT-031;1 COMPONENT-032;1 COMPONENT-033;1 COMPONENT-034;1 COMPONENT-035",
     "1 COMPONENT-036;1 COMPONENT-037;1 COMPONENT-038;1 COMPONENT-039;1 COMPONENT-040",
     "1 COMPONENT-041;1 COMPONENT-042;1 COMPONENT-043;1 COMPONENT-044;1 COMPONENT-045",
     "1 COMPONENT-046;1 COMPONENT-047;1 COMPONENT-048;1 COMPONENT-049;1 COMPONENT-050",
     "1 COMPONENT-051;1 COMPONENT-052;1 COMPONENT-053;1 COMPONENT-054;1 COMPONENT-055",
     "1 COMPONENT-056;1 COMPONENT-057;1 COMPONENT-058;1 COMPONENT-059;1 COMPONENT-060",
     "1 COMPONENT-061;1 COMPONENT-062;1 COMPONENT-063;1 COMPONENT-064;1 COMPONENT-065",
     "1 COMPONENT-066;1 COMPONENT-067;1 COMPONENT-068;1 COMPONENT-069;1 COMPONENT-070",
     "1 COMPONENT-071;1 COMPONENT-072;1 COMPONENT-073;1 COMPONENT-074;1 COMPONENT-075",
     "1 COMPONENT-076;1 COMPONENT-077;1 COMPONENT-078;1 COMPONENT-079;1 COMPONENT-080",
     "1 COMPONENT-081;1 COMPONENT-082;1 COMPONENT-083;1 COMPONENT-084;1 COMPONENT-085",
     "1 COMPONENT-086;1 COMPONENT-087;1 COMPONENT-088;1 COMPONENT-089;1 COMPONENT-090",
     "1 COMPONENT-091;1 COMPONENT-092;1 COMPONENT-093;1 COMPONENT-094;1 COMPONENT-095",
     "1 COMPONENT-096;1 COMPONENT-097;1 COMPONENT-098;1 COMPONENT-099;1 COMPONENT-100",
     "1 COMPONENT-101;1 COMPONENT-102;1 COMPONENT-103;1 COMPONENT-104;1 COMPONENT-105",
     "1 COMPONENT-106;1 COMPONENT-107;1 COMPONENT-108;1 COMPONENT-109;1 COMPONENT-110",
     "1 COMPONENT-111;1 COMPONENT-112;1 COMPONENT-113;1 COMPONENT-114;1 COMPONENT-115",
     "1 COMPONENT-116;1 COMPONENT-117;1 COMPONENT-118;1 COMPONENT-119;1 COMPONENT-120",
     "1 COMPONENT-121;1 COMPONENT-122;1 COMPONENT-123;1 COMPONENT-124;1 COMPONENT-125",
     "1 COMPONENT-126;1 COMPONENT-127;1 COMPONENT-128;1 COMPONENT-129;1 COMPONENT-130",
     "1 COMPONENT-131;1 COMPONENT-132;1 COMPONENT-133;1 COMPONENT-134;1 COMPONENT-135",
     "1 COMPONENT-136;1 COMPONENT-137;1 COMPONENT-138;1 COMPONENT-139;1 COMPONENT-140",
     "1 COMPONENT-141;1 COMPONENT-142;1 COMPONENT-143;1 COMPONENT-144;1 COMPONENT-145",
     "1 COMPONENT-146;1 COMPONENT-147;1 COMPONENT-148;1 COMPONENT-149;1 COMPONENT-150",
     "1 COMPONENT-151;1 COMPONENT-152;1 COMPONENT-153;1 COMPONENT-154;1 COMPONENT-155",
     "1 COMPONENT-156;1 COMPONENT-157;1 COMPONENT-158;1 COMPONENT-159;1 COMPONENT-160",
     "1 COMPONENT-161;1 COMPONENT-162;1 COMPONENT-163;1 COMPONENT-164;1 COMPONENT-165",
     "1 COMPONENT-166;1 COMPONENT-167;1 COMPONENT-168;1 COMPONENT-169;1 COMPONENT-170",
     "1 COMPONENT-171;1 COMPONENT-172;1 COMPONENT-173;1 COMPONENT-174;1 COMPONENT-175",
     "1 COMPONENT-176;1 COMPONENT-177;1 COMPONENT-178;1 COMPONENT-179;1 COMPONENT-180",
     "1 COMPONENT-181;1 COMPONENT-182;1 COMPONENT-183;1 COMPONENT-184;1 COMPONENT-185",
     "1 COMPONENT-186;1 COMPONENT-187;1 COMPONENT-188;1 COMPONENT-189;1 COMPONENT-190",
     "1 COMPONENT-191;1 COMPONENT-192;1 COMPONENT-193;1 COMPONENT-194;1 COMPONENT-195",
     "1 COMPONENT-196;1 COMPONENT-197;1 COMPONENT-198;1 COMPONENT-199;1 COMPONENT-200",
     "1 COMPONENT-201;1 COMPONENT-202;1 COMPONENT-203;1 COMPONENT-204;1 COMPONENT-205",
     "1 COMPONENT-206;1 COMPONENT-207;1 COMPONENT-208;1 COMPONENT-209;1 COMPONENT-210",
     "1 COMPONENT-211;1 COMPONENT-212;1 COMPONENT-213;1 COMPONENT-214;1 COMPONENT-215",
     "1 COMPONENT-216;1 COMPONENT-217;1 COMPONENT-218;1 COMPONENT-219;1 COMPONENT-220",
     "1 COMPONENT-221;1 COMPONENT-222;1 COMPONENT-223;1 COMPONENT-224;1 COMPONENT-225",
     "1 COMPONENT-226;1 COMPONENT-227;1 COMPONENT-228;1 COMPONENT-229;1 COMPONENT-230",
     "1 COMPONENT-231;1 COMPONENT-232;1 COMPONENT-233;1 COMPONENT-234;1 COMPONENT-235",
     "1 COMPONENT-236;1 COMPONENT-237;1 COMPONENT-238;1 COMPONENT-239;1 COMPONENT-240",
     "1 COMPONENT-241;1 COMPONENT-242;1 COMPONENT-243;1 COMPONENT-244;1 COMPONENT-245",
     "1 COMPONENT-246;1 COMPONENT-247;1 COMPONENT-248;1 COMPONENT-249;1 COMPONENT-250",
     "1 COMPONENT-251;1 COMPONENT-252;1 COMPONENT-253;1 COMPONENT-254;1 COMPONENT-255",
     "1 COMPONENT-256;1 COMPONENT-257;1 COMPONENT-258;1 COMPONENT-259;1 COMPONENT-260",
     "1 COMPONENT-261;1 COMPONENT-262;1 COMPONENT-263;1 COMPONENT-264;1 COMPONENT-265",
     "1 COMPONENT-266;1 COMPONENT-267;1 COMPONENT-268;1 COMPONENT-269;1 COMPONENT-270",
     "1 COMPONENT-271;1 COMPONENT-272;1 COMPONENT-273;1 COMPONENT-274;1 COMPONENT-275",
     "1 COMPONENT-276;1 COMPONENT-277;1 COMPONENT-278;1 COMPONENT-279;1 COMPONENT-280",
     "1 COMPONENT-281;1 COMPONENT-282;1 COMPONENT-283;1 COMPONENT-284;1 COMPONENT-285",
     "1 COMPONENT-286;1 COMPONENT-287;1 COMPONENT-288;1 COMPONENT-289;1 COMPONENT-290",
     "1 COMPONENT-291;1 COMPONENT-292;1 COMPONENT-293;1 COMPONENT-294;1 COMPONENT-295",
     "1 COMPONENT-296;1 COMPONENT-297;1 COMPONENT-298;1 COMPONENT-299;1 COMPONENT-300",
     "1 COMPONENT-301;1 COMPONENT-302;1 COMPONENT-303;1 COMPONENT-304;1 COMPONENT-305",
     "1 COMPONENT-306;1 COMPONENT-307;1 COMPONENT-308;1 COMPONENT-309;1 COMPONENT-310",
     "1 COMPONENT-311;1 COMPONENT-312;1 COMPONENT-313;1 COMPONENT-314;1 COMPONENT-315",
     "1 COMPONENT-316;1 COMPONENT-317;1 COMPONENT-318;1 COMPONENT-319;1 COMPONENT-320",
     "1 COMPONENT-321;1 COMPONENT-322;1 COMPONENT-323;1 COMPONENT-324;1 COMPONENT-325",
     "1 COMPONENT-326;1 COMPONENT-327;1 COMPONENT-328;1 COMPONENT-329;1 COMPONENT-330",
     "1 COMPONENT-331;1 COMPONENT-332;1 COMPONENT-333;1 COMPONENT-334;1 COMPONENT-335",
     "1 COMPONENT-336;1 COMPONENT-337;1 COMPONENT-338;1 COMPONENT-339;1 COMPONENT-340",
     "1 COMPONENT-341;1 COMPONENT-342;1 COMPONENT-343;1 COMPONENT-344;1 COMPONENT-345",
     "1 COMPONENT-346;1 COMPONENT-347;1 COMPONENT-348;1 COMPONENT-349;1 COMPONENT-350",
     "1 COMPONENT-351;1 COMPONENT-352;1 COMPONENT-353;1 COMPONENT-354;1 COMPONENT-355",
     "1 COMPONENT-356;1 COMPONENT-357;1 COMPONENT-358;1 COMPONENT-359;1 COMPONENT-360",
     "1 COMPONENT-361;1 COMPONENT-362;1 COMPONENT-363;1 COMPONENT-364;1 COMPONENT-365",
     "1 COMPONENT-366;1 COMPONENT-367;1 COMPONENT-368;1 COMPONENT-369;1 COMPONENT-370",
     "1 COMPONENT-371;1 COMPONENT-372;1 COMPONENT-373;1 COMPONENT-374;1 COMPONENT-375",
     "1 COMPONENT-376;1 COMPONENT-377;1 COMPONENT-378;1 COMPONENT-379;1 COMPONENT-380",
     "1 COMPONENT-381;1 COMPONENT-382;1 COMPONENT-383;1 COMPONENT-384;1 COMPONENT-385",
     "1 COMPONENT-386;1 COMPONENT-387;1 COMPONENT-388;1 COMPONENT-389;1 COMPONENT-390",
     "1 COMPONENT-391;1 COMPONENT-392;1 COMPONENT-393;1 COMPONENT-394;1 COMPONENT-395",
     "1 COMPONENT-396;1 COMPONENT-397;1 COMPONENT-398;1 COMPONENT-399;1 COMPONENT-400",
     "1 COMPONENT-401;1 COMPONENT-402;1 COMPONENT-403;1 COMPONENT-404;1 COMPONENT-405",
     "1 COMPONENT-406;1 COMPONENT-407;1 COMPONENT-408;1 COMPONENT-409;1 COMPONENT-410",
     "1 COMPONENT-411;1 COMPONENT-412;1 COMPONENT-413;1 COMPONENT-414;1 COMPONENT-415",
     "1 COMPONENT-416;1 COMPONENT-417;1 COMPONENT-418;1 COMPONENT-419;1 COMPONENT-420",
     "1 COMPONENT-421;1 COMPONENT-422;1 COMPONENT-423;1 COMPONENT-424;1 COMPONENT-425",
     "1 COMPONENT-426;1 COMPONENT-427;1 COMPONENT-428;1 COMPONENT-429;1 COMPONENT-430",
     "1 COMPONENT-431;1 COMPONENT-432;1 COMPONENT-433;1 COMPONENT-434;1 COMPONENT-435",
     "1 COMPONENT-436;1 COMPONENT-437;1 COMPONENT-438;1 COMPONENT-439;1 COMPONENT-440",
     "1 COMPONENT-441;1 COMPONENT-442;1 COMPONENT-443;1 COMPONENT-444;1 COMPONENT-445",
     "1 COMPONENT-446;1 COMPONENT-447;1 COMPONENT-448;1 COMPONENT-449;1 COMPONENT-450",
     "1 COMPONENT-451;1 COMPONENT-452;1 COMPONENT-453;1 COMPONENT-454;1 COMPONENT-455",
     "1 COMPONENT-456;1 COMPONENT-457;1 COMPONENT-458;1 COMPONENT-459;1 COMPONENT-460",
     "1 COMPONENT-461;1 COMPONENT-462;1 COMPONENT-463;1 COMPONENT-464;1 COMPONENT-465",
     "1 COMPONENT-466;1 COMPONENT-467;1 COMPONENT-468;1 COMPONENT-469;1 COMPONENT-470",
     "1 COMPONENT-471;1 COMPONENT-472;1 COMPONENT-473;1 COMPONENT-474;1 COMPONENT-475",
     "1 COMPONENT-476;1 COMPONENT-477;1 COMPONENT-478;1 COMPONENT-479;1 COMPONENT-480",
     "1 COMPONENT-481;1 COMPONENT-482;1 COMPONENT-483;1 COMPONENT-484;1 COMPONENT-485",
     "1 COMPONENT-486;1 COMPONENT-487;1 COMPONENT-488;1 COMPONENT-489;1 COMPONENT-490",
     "1 COMPONENT-491;1 COMPONENT-492;1 COMPONENT-493;1 COMPONENT-494;1 COMPONENT-495",
     "1 COMPONENT-496;1 COMPONENT-497;1 COMPONENT-498;1 COMPONENT-499;1 COMPONENT-500",
     "1 COMPONENT-501;1 COMPONENT-502;1 COMPONENT-503;1 COMPONENT-504;1 COMPONENT-505",
     "1 COMPONENT-506;1 COMPONENT-507;1 COMPONENT-508;1 COMPONENT-509;1 COMPONENT-510",
     "1 COMPONENT-511;1 COMPONENT-512;1 COMPONENT-513;1 COMPONENT-514;1 COMPONENT-515",
     "1 COMPONENT-516;1 COMPONENT-517;1 COMPONENT-518;1 COMPONENT-519;1 COMPONENT-520",
     "1 COMPONENT-521;1 COMPONENT-522;1 COMPONENT-523;1 COMPONENT-524;1 COMPONENT-525",
     "1 COMPONENT-526;1 COMPONENT-527;1 COMPONENT-528;1 COMPONENT-529;1 COMPONENT-530",
     "1 COMPONENT-531;1 COMPONENT-532;1 COMPONENT-533;1 COMPONENT-534;1 COMPONENT-535",
     "1 COMPONENT-536;1 COMPONENT-537;1 COMPONENT-538;1 COMPONENT-539;1 COMPONENT-540",
     "1 COMPONENT-541;1 COMPONENT-542;1 COMPONENT-543;1 COMPONENT-544;1 COMPONENT-545",
     "1 COMPONENT-546;1 COMPONENT-547;1 COMPONENT-548;1 COMPONENT-549;1 COMPONENT-550",
     "1 COMPONENT-551;1 COMPONENT-552;1 COMPONENT-553;1 COMPONENT-554;1 COMPONENT-555",
     "1 COMPONENT-556;1 COMPONENT-557;1 COMPONENT-558;1 COMPONENT-559;1 COMPONENT-560",
     "1 COMPONENT-561;1 COMPONENT-562;1 COMPONENT-563;1 COMPONENT-564;1 COMPONENT-565",
     "1 COMPONENT-566;1 COMPONENT-567;1 COMPONENT-568;1 COMPONENT-569;1 COMPONENT-570",
     "1 COMPONENT-571;1 COMPONENT-572;1 COMPONENT-573;1 COMPONENT-574;1 COMPONENT-575",
     "1 COMPONENT-576;1 COMPONENT-577;1 COMPONENT-578;1 COMPONENT-579;1 COMPONENT-580",
     "1 COMPONENT-581;1 COMPONENT-582;1 COMPONENT-583;1 COMPONENT-584;1 COMPONENT-585",
     "1 COMPONENT-586;1 COMPONENT-587;1 COMPONENT-588;1 COMPONENT-589;1 COMPONENT-590",
     "1 COMPONENT-591;1 COMPONENT-592;1 COMPONENT-593;1 COMPONENT-594;1 COMPONENT-595",
     "1 COMPONENT-596;1 COMPONENT-597;1 COMPONENT-598;1 COMPONENT-599;1 COMPONENT-600",
     "1 COMPONENT-601;1 COMPONENT-602;1 COMPONENT-603;1 COMPONENT-604;1 COMPONENT-605",
     "1 COMPONENT-606;1 COMPONENT-607;1 COMPONENT-608;1 COMPONENT-609;1 COMPONENT-610",
     "1 COMPONENT-611;1 COMPONENT-612;1 COMPONENT-613;1 COMPONENT-614;1 COMPONENT-615",
     "1 COMPONENT-616;1 COMPONENT-617;1 COMPONENT-618;1 COMPONENT-619;1 COMPONENT-620",
     "1 COMPONENT-621;1 COMPONENT-622;1 COMPONENT-623;1 COMPONENT-624;1 COMPONENT-625",
     "1 COMPONENT-626;1 COMPONENT-627;1 COMPONENT-628;1 COMPONENT-629;1 COMPONENT-630",
     "1 COMPONENT-631;1 COMPONENT-632;1 COMPONENT-633;1 COMPONENT-634;1 COMPONENT-635",
     "1 COMPONENT-636;1 COMPONENT-637;1 COMPONENT-638;1 COMPONENT-639;1 COMPONENT-640",
     "1 COMPONENT-641;1 COMPONENT-642;1 COMPONENT-643;1 COMPONENT-644;1 COMPONENT-645",
     "1 COMPONENT-646;1 COMPONENT-647;1 COMPONENT-648;1 COMPONENT-649;1 COMPONENT-650",
     "1 COMPONENT-651;1 COMPONENT-652;1 COMPONENT-653;1 COMPONENT-654;1 COMPONENT-655",
     "1 COMPONENT-656;1 COMPONENT-657;1 COMPONENT-658;1 COMPONENT-659;1 COMPONENT-660",
     "1 COMPONENT-661;1 COMPONENT-662;1 COMPONENT-663;1 COMPONENT-664;1 COMPONENT-665",
     "1 COMPONENT-666;1 COMPONENT-667;1 COMPONENT-668;1 COMPONENT-669;1 COMPONENT-670",
     "1 COMPONENT-671;1 COMPONENT-672;1 COMPONENT-673;1 COMPONENT-674;1 COMPONENT-675",
     "1 COMPONENT-676;1 COMPONENT-677;1 COMPONENT-678;1 COMPONENT-679;1 COMPONENT-680",
     "1 COMPONENT-681;1 COMPONENT-682;1 COMPONENT-683;1 COMPONENT-684;1 COMPONENT-685",
     "1 COMPONENT-686;1 COMPONENT-687;1 COMPONENT-688;1 COMPONENT-689;1 COMPONENT-690",
     "1 COMPONENT-691;1 COMPONENT-692;1 COMPONENT-693;1 COMPONENT-694;1 COMPONENT-695",
     "1 COMPONENT-696;1 COMPONENT-697;1 COMPONENT-698;1 COMPONENT-699;1 COMPONENT-700",
     "1 COMPONENT-701;1 COMPONENT-702;1 COMPONENT-703;1 COMPONENT-704;1 COMPONENT-705",
     "1 COMPONENT-706;1 COMPONENT-707;1 COMPONENT-708;1 COMPONENT-709;1 COMPONENT-710",
     "1 COMPONENT-711;1 COMPONENT-712;1 COMPONENT-713;1 COMPONENT-714;1 COMPONENT-715",
     "1 COMPONENT-716;1 COMPONENT-717;1 COMPONENT-718;1 COMPONENT-719;1 COMPONENT-720",
     "1 COMPONENT-721;1 COMPONENT-722;1 COMPONENT-723;1 COMPONENT-724;1 COMPONENT-725",
     "1 COMPONENT-726;1 COMPONENT-727;1 COMPONENT-728;1 COMPONENT-729;1 COMPONENT-730",
     "1 COMPONENT-731;1 COMPONENT-732;1 COMPONENT-733;1 COMPONENT-734;1 COMPONENT-735",
     "1 COMPONENT-736;1 COMPONENT-737;1 COMPONENT-738;1 COMPONENT-739;1 COMPONENT-740",
     "1 COMPONENT-741;1 COMPONENT-742;1 COMPONENT-743;1 COMPONENT-744;1 COMPONENT-745",
     "1 COMPONENT-746;1 COMPONENT-747;1 COMPONENT-748;1 COMPONENT-749;1 COMPONENT-750",
     "1 COMPONENT-751;1 COMPONENT-752;1 COMPONENT-753;1 COMPONENT-754;1 COMPONENT-755",
     "1 COMPONENT-756;1 COMPONENT-757;1 COMPONENT-758;1 COMPONENT-759;1 COMPONENT-760",
     "1 COMPONENT-761;1 COMPONENT-762;1 COMPONENT-763;1 COMPONENT-764;1 COMPONENT-765",
     "1 COMPONENT-766;1 COMPONENT-767;1 COMPONENT-768"]),
   (110576, ["KATAKANA LETTER MINNAN TONE-2;3 TONE-3;3 TONE-4;3 TONE-5"]),
   (110581,
    ["KATAKANA LETTER MINNAN TONE-7;3 TONE-8;3 NASALIZED TONE-1;4 TONE-2;4 TONE-3;4 TONE-4",
     "4 TONE-5"]),
   (110589, ["KATAKANA LETTER MINNAN NASALIZED TONE-7;4 TONE-8"]),
   (110592,
    ["KATAKANA LETTER ARCHAIC E;HIRAGANA LETTER ARCHAIC YE;HENTAIGANA LETTER A-1;2 A-2;2 A-3",
     "2 A-WO;2 I-1;2 I-2;2 I-3;2 I-4;2 U-1;2 U-2;2 U-3;2 U-4;2 U-5;2 E-2;2 E-3;2 E-4;2 E-5",
     "2 E-6;2 O-1;2 O-2;2 O-3;2 KA-1;2 KA-2;2 KA-3;2 KA-4;2 KA-5;2 KA-6;2 KA-7;2 KA-8;2 KA-9",
     "2 KA-10;2 KA-11;2 KA-KE;2 KI-1;2 KI-2;2 KI-3;2 KI-4;2 KI-5;2 KI-6;2 KI-7;2 KI-8;2 KU-1",
     "2 KU-2;2 KU-3;2 KU-4;2 KU-5;2 KU-6;2 KU-7;2 KE-1;2 KE-2;2 KE-3;2 KE-4;2 KE-5;2 KE-6",
     "2 KO-1;2 KO-2;2 KO-3;2 KO-KI;2 SA-1;2 SA-2;2 SA-3;2 SA-4;2 SA-5;2 SA-6;2 SA-7;2 SA-8",
     "2 SI-1;2 SI-2;2 SI-3;2 SI-4;2 SI-5;2 SI-6;2 SU-1;2 SU-2;2 SU-3;2 SU-4;2 SU-5;2 SU-6",
     "2 SU-7;2 SU-8;2 SE-1;2 SE-2;2 SE-3;2 SE-4;2 SE-5;2 SO-1;2 SO-2;2 SO-3;2 SO-4;2 SO-5",
     "2 SO-6;2 SO-7;2 TA-1;2 TA-2;2 TA-3;2 TA-4;2 TI-1;2 TI-2;2 TI-3;2 TI-4;2 TI-5;2 TI-6",
     "2 TI-7;2 TU-1;2 TU-2;2 TU-3;2 TU-4;2 TU-TO;2 TE-1;2 TE-2;2 TE-3;2 TE-4;2 TE-5;2 TE-6",
     "2 TE-7;2 TE-8;2 TE-9;2 TO-1;2 TO-2;2 TO-3;2 TO-4;2 TO-5;2 TO-6;2 TO-RA;2 NA-1;2 NA-2",
     "2 NA-3;2 NA-4;2 NA-5;2 NA-6;2 NA-7;2 NA-8;2 NA-9;2 NI-1;2 NI-2;2 NI-3;2 NI-4;2 NI-5",
     "2 NI-6;2 NI-7;2 NI-TE;2 NU-1;2 NU-2;2 NU-3;2 NE-1;2 NE-2;2 NE-3;2 NE-4;2 NE-5;2 NE-6",
     "2 NE-KO;2 NO-1;2 NO-2;2 NO-3;2 NO-4;2 NO-5;2 HA-1;2 HA-2;2 HA-3;2 HA-4;2 HA-5;2 HA-6",
     "2 HA-7;2 HA-8;2 HA-9;2 HA-10;2 HA-11;2 HI-1;2 HI-2;2 HI-3;2 HI-4;2 HI-5;2 HI-6;2 HI-7",
     "2 HU-1;2 HU-2;2 HU-3;2 HE-1;2 HE-2;2 HE-3;2 HE-4;2 HE-5;2 HE-6;2 HE-7;2 HO-1;2 HO-2",
     "2 HO-3;2 HO-4;2 HO-5;2 HO-6;2 HO-7;2 HO-8;2 MA-1;2 MA-2;2 MA-3;2 MA-4;2 MA-5;2 MA-6",
     "2 MA-7;2 MI-1;2 MI-2;2 MI-3;2 MI-4;2 MI-5;2 MI-6;2 MI-7;2 MU-1;2 MU-2;2 MU-3;2 MU-4",
     "2 ME-1;2 ME-2;2 ME-MA;2 MO-1;2 MO-2;2 MO-3;2 MO-4;2 MO-5;2 MO-6;2 YA-1;2 YA-2;2 YA-3",
     "2 YA-4;2 YA-5;2 YA-YO;2 YU-1;2 YU-2;2 YU-3;2 YU-4;2 YO-1;2 YO-2;2 YO-3;2 YO-4;2 YO-5",
     "2 YO-6;2 RA-1;2 RA-2;2 RA-3;2 RA-4;2 RI-1;2 RI-2;2 RI-3;2 RI-4;2 RI-5;2 RI-6;2 RI-7",
     "2 RU-1;2 RU-2;2 RU-3;2 RU-4;2 RU-5;2 RU-6;2 RE-1;2 RE-2;2 RE-3;2 RE-4;2 RO-1;2 RO-2",
     "2 RO-3;2 RO-4;2 RO-5;2 RO-6;2 WA-1;2 WA-2;2 WA-3;2 WA-4;2 WA-5;2 WI-1;2 WI-2;2 WI-3",
     "2 WI-4;2 WI-5;2 WE-1;2 WE-2;2 WE-3;2 WE-4;2 WO-1;2 WO-2;2 WO-3;2 WO-4;2 WO-5;2 WO-6",
     "2 WO-7;2 N-MU-MO-1;2 N-MU-MO-2;HIRAGANA LETTER ARCHAIC WU;KATAKANA LETTER ARCHAIC YI",
     "3 YE;3 WU"]),
   (110928, ["HIRAGANA LETTER SMALL WI;3 WE;3 WO"]),
   (110948, ["KATAKANA LETTER SMALL WI;3 WE;3 WO;3 N"]),
   (113664,
    ["DUPLOYAN LETTER H;2 X;2 P;2 T;2 F;2 K;2 L;2 B;2 D;2 V;2 G;2 R;2 P N;2 D S;2 F N;2 K M",
     "2 R S;2 TH;2 SLOAN DH;2 DH;2 KK;2 SLOAN J;2 HL;2 LH;2 RH;2 M;2 N;2 J;2 S;2 M N;2 N M",
     "2 J M;2 S J;2 M WITH DOT;2 N WITH DOT;2 J WITH DOT;4 DOTS INSIDE AND ABOVE;2 S WITH DOT",
     "5 BELOW;2 M S;2 N S;2 J S;2 S S;2 M N S;2 N M S;2 J M S;2 S J S;2 J S WITH DOT;3 N;4 S",
     "2 S T;4 R;3 P;4 R;2 T S;3 R S;2 W;2 WH;2 W R;2 S N;3 M;2 K R S;2 G R S;2 S K;4 R;2 A",
     "2 SLOAN OW;2 OA;2 O;2 AOU;2 I;2 E;2 IE;2 SHORT I;2 UI;2 EE;2 SLOAN EH;2 ROMANIAN I",
     "2 SLOAN EE;2 LONG I;2 YE;2 U;2 EU;2 XW;2 U N;2 LONG U;2 ROMANIAN U;2 UH;2 SLOAN U;2 OOH",
     "2 OW;2 OU;2 WA;2 WO;2 WI;2 WEI;2 WOW;2 NASAL U;3 O;3 I;3 A;2 PERNIN AN;3 AM;2 SLOAN EN",
     "3 AN;3 ON;2 VOCALIC M"]),
   (113776,
    ["DUPLOYAN AFFIX LEFT HORIZONTAL SECANT;2 MID HORIZONTAL SECANT;2 RIGHT HORIZONTAL SECANT",
     "2 LOW VERTICAL SECANT;2 MID VERTICAL SECANT;2 HIGH VERTICAL SECANT;2 ATTACHED SECANT",
     "3 LEFT-TO-RIGHT SECANT;3 TANGENT;3 TAIL;3 E HOOK;3 I HOOK;3 TANGENT HOOK"]),
   (113792,
    ["DUPLOYAN AFFIX HIGH ACUTE;3 TIGHT ACUTE;3 GRAVE;3 LONG GRAVE;3 DOT;3 CIRCLE;3 LINE",
     "3 WAVE;3 VERTICAL"]),
   (113808,
    ["DUPLOYAN AFFIX LOW ACUTE;3 TIGHT ACUTE;3 GRAVE;3 LONG GRAVE;3 DOT;3 CIRCLE;3 LINE;3 WAVE",
     "3 VERTICAL;3 ARROW"]),
   (113820,
    ["DUPLOYAN SIGN O WITH CROSS;1 THICK LETTER SELECTOR;1 DOUBLE MARK",
     "1 PUNCTUATION CHINOOK FULL STOP;SHORTHAND FORMAT LETTER OVERLAP;2 CONTINUING OVERLAP",
     "2 DOWN STEP;2 UP STEP"]),
   (118528,
    ["ZNAMENNY COMBINING MARK GORAZDO NIZKO S KRYZHEM ON LEFT;3 NIZKO S KRYZHEM ON LEFT",
     "3 TSATA ON LEFT;3 GORAZDO NIZKO ON LEFT;3 NIZKO ON LEFT;3 SREDNE ON LEFT",
     "3 MALO POVYSHE ON LEFT;3 POVYSHE ON LEFT;3 VYSOKO ON LEFT",
     "3 MALO POVYSHE S KHOKHLOM ON LEFT;3 POVYSHE S KHOKHLOM ON LEFT",
     "3 VYSOKO S KHOKHLOM ON LEFT;3 GORAZDO NIZKO S KRYZHEM ON RIGHT",
     "3 NIZKO S KRYZHEM ON RIGHT;3 TSATA ON RIGHT;3 GORAZDO NIZKO ON RIGHT;3 NIZKO ON RIGHT",
     "3 SREDNE ON RIGHT;3 MALO POVYSHE ON RIGHT;3 POVYSHE ON RIGHT;3 VYSOKO ON RIGHT",
     "3 MALO POVYSHE S KHOKHLOM ON RIGHT;3 POVYSHE S KHOKHLOM ON RIGHT",
     "3 VYSOKO S KHOKHLOM ON RIGHT;3 TSATA S KRYZHEM;3 MALO POVYSHE S KRYZHEM",
     "3 STRANNO MALO POVYSHE;3 POVYSHE S KRYZHEM;4 STRANNO;3 VYSOKO S KRYZHEM",
     "3 MALO POVYSHE STRANNO;3 GORAZDO VYSOKO;3 ZELO;3 ON;3 RAVNO;3 TIKHAYA;3 BORZAYA;3 UDARKA",
     "3 PODVERTKA;3 LOMKA;3 KUPNAYA;3 KACHKA;3 ZEVOK;3 SKOBA;3 RAZSEKA;3 KRYZH ON LEFT"]),
   (118576,
    ["ZNAMENNY COMBINING TONAL RANGE MARK MRACHNO;5 SVETLO;5 TRESVETLO;2 MARK ZADERZHKA",
     "3 DEMESTVENNY ZADERZHKA;3 OTSECHKA;3 PODCHASHIE;4 WITH VERTICAL STROKE;3 CHASHKA",
     "4 POLNAYA;3 OBLACHKO;3 SOROCHYA NOZHKA;3 TOCHKA;3 DVOETOCHIE;2 ATTACHING VERTICAL OMET",
     "2 MARK CURVED OMET;3 KRYZH;2 LOWER TONAL RANGE INDICATOR;1 PRIZNAK MODIFIER LEVEL-2",
     "3 LEVEL-3;3 DIRECTION FLIP;3 KRYZH;3 ROG"]),
   (118608,
    ["ZNAMENNY NEUME KRYUK;3 TIKHY;2 PARAKLIT;2 DVA V CHELNU;2 KLYUCH;2 ZANOZHEK;2 STOPITSA",
     "3 S OCHKOM;2 PEREVODKA;3 NEPOSTOYANNAYA;2 STOPITSA WITH SOROCHYA NOZHKA;2 CHELYUSTKA",
     "2 PALKA;2 ZAPYATAYA;2 GOLUBCHIK BORZY;3 TIKHY;3 MRACHNY;3 SVETLY;3 TRESVETLY",
     "2 VRAKHIYA PROSTAYA;3 MRACHNAYA;3 SVETLAYA;3 TRESVETLAYA;3 KLYUCHEVAYA PROSTAYA",
     "4 MRACHNAYA;4 SVETLAYA;4 TRESVETLAYA;2 DOUBLE ZAPYATAYA;2 REVERSED CHELYUSTKA;2 DERBITSA",
     "2 KHAMILO;2 CHASHKA;2 PODCHASHIE;2 SKAMEYTSA MRACHNAYA;3 SVETLAYA;3 TRESVETLAYA",
     "3 TIKHAYA;2 DEMESTVENNY KLYUCH;2 SKAMEYTSA KLYUCHEVAYA SVETLAYA;3 KLYUCHENEPOSTOYANNAYA",
     "3 KLYUCHEVAYA TIKHAYA;3 DVOECHELNAYA PROSTAYA;4 SVETLAYA;4 NEPOSTOYANNAYA;4 KLYUCHEVAYA",
     "2 SLOZHITIE;3 S ZAPYATOY;3 ZAKRYTOE;3 S KRYZHEM;2 KRYZH;2 ROG;2 FITA;2 KOBYLA;2 ZMEYTSA",
     "2 STATYA;3 S ZAPYATOY;4 KRYZHEM;4 ZAPYATOY I KRYZHEM;4 KRYZHEM I ZAPYATOY;3 ZAKRYTAYA",
     "4 S ZAPYATOY;3 S ROGOM;4 DVUMYA ZAPYATYMI;4 ZAPYATOY I PODCHASHIEM;2 POLKULIZMY",
     "2 STATYA NEPOSTOYANNAYA;2 STRELA PROSTAYA;3 MRACHNOTIKHAYA;3 KRYZHEVAYA;3 POLUPOVODNAYA",
     "3 POVODNAYA;3 NEPOSTOYANNAYA;3 KLYUCHEPOVODNAYA;3 KLYUCHENEPOSTOYANNAYA",
     "3 TIKHAYA PUTNAYA;3 DVOECHELNAYA;3 DVOECHELNOKRYZHEVAYA;3 DVOECHELNOPOVODNAYA",
     "3 DVOECHELNAYA KLYUCHEVAYA;3 DVOECHELNOPOVODNAYA KLYUCHEVAYA",
     "3 GROMNAYA WITH SINGLE ZAPYATAYA;3 GROMOPOVODNAYA WITH SINGLE ZAPYATAYA;3 GROMNAYA",
     "3 GROMOPOVODNAYA;4 WITH DOUBLE ZAPYATAYA;3 GROMOKRYZHEVAYA;4 POVODNAYA;2 MECHIK",
     "3 POVODNY;3 KLYUCHEVOY;3 KLYUCHEPOVODNY;3 KLYUCHENEPOSTOYANNY;2 STRELA TRYASOGLASNAYA",
     "3 TRYASOPOVODNAYA;3 TRYASOSTRELNAYA;2 OSOKA;3 SVETLAYA;3 TRESVETLAYA",
     "3 KRYUKOVAYA SVETLAYA;3 KLYUCHEVAYA SVETLAYA;4 NEPOSTOYANNAYA;2 STRELA KRYUKOVAYA",
     "4 POVODNAYA;4 GROMNAYA WITH SINGLE ZAPYATAYA;4 GROMOPOVODNAYA WITH SINGLE ZAPYATAYA",
     "4 GROMNAYA;4 GROMOPOVODNAYA;5 WITH DOUBLE ZAPYATAYA;4 GROMOKRYZHEVAYA;5 POVODNAYA",
     "4 TRYASKA;2 KUFISMA;2 OBLAKO;2 DUDA;2 NEMKA;2 PAUK"]),
   (118784,
    ["BYZANTINE MUSICAL SYMBOL PSILI;3 DASEIA;3 PERISPOMENI;3 OXEIA EKFONITIKON;4 DIPLI",
     "3 VAREIA EKFONITIKON;4 DIPLI;3 KATHISTI;3 SYRMATIKI;3 PARAKLITIKI;3 YPOKRISIS;4 DIPLI",
     "3 KREMASTI;3 APESO EKFONITIKON;3 EXO EKFONITIKON;3 TELEIA;3 KENTIMATA;3 APOSTROFOS",
     "4 DIPLI;3 SYNEVMA;3 THITA;3 OLIGON ARCHAION;3 GORGON ARCHAION;3 PSILON;3 CHAMILON",
     "3 VATHY;3 ISON ARCHAION;3 KENTIMA ARCHAION;3 KENTIMATA ARCHAION;3 SAXIMATA;3 PARICHON",
     "3 STAVROS APODEXIA;3 OXEIAI ARCHAION;3 VAREIAI ARCHAION;3 APODERMA ARCHAION;3 APOTHEMA",
     "3 KLASMA;3 REVMA;3 PIASMA ARCHAION;3 TINAGMA;3 ANATRICHISMA;3 SEISMA;3 SYNAGMA ARCHAION",
     "4 META STAVROU;3 OYRANISMA ARCHAION;3 THEMA;3 LEMOI;3 DYO;3 TRIA;3 TESSERA;3 KRATIMATA",
     "3 APESO EXO NEO;3 FTHORA ARCHAION;3 IMIFTHORA;3 TROMIKON ARCHAION;3 KATAVA TROMIKON",
     "3 PELASTON;3 PSIFISTON;3 KONTEVMA;3 CHOREVMA ARCHAION;3 RAPISMA;3 PARAKALESMA ARCHAION",
     "3 PARAKLITIKI ARCHAION;3 ICHADIN;3 NANA;3 PETASMA;3 KONTEVMA ALLO;3 TROMIKON ALLO",
     "3 STRAGGISMATA;3 GRONTHISMATA;3 ISON NEO;3 OLIGON NEO;3 OXEIA NEO;3 PETASTI;3 KOUFISMA",
     "3 PETASTOKOUFISMA;3 KRATIMOKOUFISMA;3 PELASTON NEO;3 KENTIMATA NEO ANO;3 KENTIMA NEO ANO",
     "3 YPSILI;3 APOSTROFOS NEO;3 APOSTROFOI SYNDESMOS NEO;3 YPORROI;3 KRATIMOYPORROON",
     "3 ELAFRON;3 CHAMILI;3 MIKRON ISON;3 VAREIA NEO;3 PIASMA NEO;3 PSIFISTON NEO;3 OMALON",
     "3 ANTIKENOMA;3 LYGISMA;3 PARAKLITIKI NEO;3 PARAKALESMA NEO;3 ETERON PARAKALESMA",
     "3 KYLISMA;3 ANTIKENOKYLISMA;3 TROMIKON NEO;3 EKSTREPTON;3 SYNAGMA NEO;3 SYRMA",
     "3 CHOREVMA NEO;3 EPEGERMA;3 SEISMA NEO;3 XIRON KLASMA;3 TROMIKOPSIFISTON",
     "3 PSIFISTOLYGISMA;3 TROMIKOLYGISMA;3 TROMIKOPARAKALESMA;3 PSIFISTOPARAKALESMA",
     "3 TROMIKOSYNAGMA;3 PSIFISTOSYNAGMA;3 GORGOSYNTHETON;3 ARGOSYNTHETON",
     "3 ETERON ARGOSYNTHETON;3 OYRANISMA NEO;3 THEMATISMOS ESO;4 EXO;3 THEMA APLOUN",
     "3 THES KAI APOTHES;3 KATAVASMA;3 ENDOFONON;3 YFEN KATO;4 ANO;3 STAVROS;3 KLASMA ANO",
     "3 DIPLI ARCHAION;3 KRATIMA ARCHAION;4 ALLO;4 NEO;3 APODERMA NEO;3 APLI;3 DIPLI;3 TRIPLI",
     "3 TETRAPLI;3 KORONIS;3 LEIMMA ENOS CHRONOU;4 DYO CHRONON;4 TRION CHRONON",
     "4 TESSARON CHRONON;4 IMISEOS CHRONOU;3 GORGON NEO ANO;4 PARESTIGMENON ARISTERA;5 DEXIA",
     "3 DIGORGON;4 PARESTIGMENON ARISTERA KATO;6 ANO;5 DEXIA;3 TRIGORGON;3 ARGON;3 IMIDIARGON",
     "3 DIARGON;3 AGOGI POLI ARGI;4 ARGOTERI;4 ARGI;4 METRIA;4 MESI;4 GORGI;4 GORGOTERI",
     "4 POLI GORGI;3 MARTYRIA PROTOS ICHOS;4 ALLI PROTOS ICHOS;4 DEYTEROS ICHOS",
     "4 ALLI DEYTEROS ICHOS;4 TRITOS ICHOS;4 TRIFONIAS;4 TETARTOS ICHOS;5 LEGETOS ICHOS",
     "4 LEGETOS ICHOS;4 PLAGIOS ICHOS;3 ISAKIA TELOUS ICHIMATOS;3 APOSTROFOI TELOUS ICHIMATOS",
     "3 FANEROSIS TETRAFONIAS;4 MONOFONIAS;4 DIFONIAS;3 MARTYRIA VARYS ICHOS",
     "4 PROTOVARYS ICHOS;4 PLAGIOS TETARTOS ICHOS;3 GORTHMIKON N APLOUN;5 DIPLOUN",
     "3 ENARXIS KAI FTHORA VOU;3 IMIFONON;3 IMIFTHORON;3 FTHORA ARCHAION DEYTEROU ICHOU",
     "4 DIATONIKI PA;5 NANA;4 NAOS ICHOS;4 DIATONIKI DI;4 SKLIRON DIATONON DI;4 DIATONIKI KE",
     "5 ZO;5 NI KATO;6 ANO;4 MALAKON CHROMA DIFONIAS;6 MONOFONIAS",
     "3 FHTORA SKLIRON CHROMA VASIS;3 FTHORA SKLIRON CHROMA SYNAFI;4 NENANO;3 CHROA ZYGOS",
     "4 KLITON;4 SPATHI;3 FTHORA I YFESIS TETARTIMORION;4 ENARMONIOS ANTIFONIA",
     "3 YFESIS TRITIMORION;3 DIESIS TRITIMORION;4 TETARTIMORION;4 APLI DYO DODEKATA",
     "4 MONOGRAMMOS TESSERA DODEKATA;4 DIGRAMMOS EX DODEKATA;4 TRIGRAMMOS OKTO DODEKATA",
     "3 YFESIS APLI DYO DODEKATA;4 MONOGRAMMOS TESSERA DODEKATA;4 DIGRAMMOS EX DODEKATA",
     "4 TRIGRAMMOS OKTO DODEKATA;3 GENIKI DIESIS;4 YFESIS;3 DIASTOLI APLI MIKRI;5 MEGALI",
     "4 DIPLI;4 THESEOS;3 SIMANSIS THESEOS;5 DISIMOU;5 TRISIMOU;5 TETRASIMOU;4 ARSEOS",
     "5 DISIMOU;5 TRISIMOU;5 TETRASIMOU;3 DIGRAMMA GG;3 DIFTOGGOS OU;3 STIGMA;3 ARKTIKO PA",
     "4 VOU;4 GA;4 DI;4 KE;4 ZO;4 NI;3 KENTIMATA NEO MESO;3 KENTIMA NEO MESO",
     "3 KENTIMATA NEO KATO;3 KENTIMA NEO KATO;3 KLASMA KATO;3 GORGON NEO KATO"]),
   (119040,
    ["MUSICAL SYMBOL SINGLE BARLINE;2 DOUBLE BARLINE;2 FINAL BARLINE;2 REVERSE FINAL BARLINE",
     "2 DASHED BARLINE;2 SHORT BARLINE;2 LEFT REPEAT SIGN;2 RIGHT REPEAT SIGN;2 REPEAT DOTS",
     "2 DAL SEGNO;2 DA CAPO;2 SEGNO;2 CODA;2 REPEATED FIGURE-1;3 FIGURE-2;3 FIGURE-3;2 FERMATA",
     "3 BELOW;2 BREATH MARK;2 CAESURA;2 BRACE;2 BRACKET;2 ONE-LINE STAFF;2 TWO-LINE STAFF",
     "2 THREE-LINE STAFF;2 FOUR-LINE STAFF;2 FIVE-LINE STAFF;2 SIX-LINE STAFF",
     "2 SIX-STRING FRETBOARD;2 FOUR-STRING FRETBOARD;2 G CLEF;4 OTTAVA ALTA;5 BASSA;2 C CLEF",
     "2 F CLEF;4 OTTAVA ALTA;5 BASSA;2 DRUM CLEF-1;3 CLEF-2"]),
   (119081,
    ["MUSICAL SYMBOL MULTIPLE MEASURE REST;2 DOUBLE SHARP;3 FLAT;2 FLAT UP;3 DOWN;2 NATURAL UP",
     "3 DOWN;2 SHARP UP;3 DOWN;2 QUARTER TONE SHARP;4 FLAT;2 COMMON TIME;2 CUT TIME",
     "2 OTTAVA ALTA;3 BASSA;2 QUINDICESIMA ALTA;3 BASSA;2 MULTI REST;2 WHOLE REST;2 HALF REST",
     "2 QUARTER REST;2 EIGHTH REST;2 SIXTEENTH REST;2 THIRTY-SECOND REST;2 SIXTY-FOURTH REST",
     "2 ONE HUNDRED TWENTY-EIGHTH REST;2 X NOTEHEAD;2 PLUS NOTEHEAD;2 CIRCLE X NOTEHEAD",
     "2 SQUARE NOTEHEAD WHITE;4 BLACK;2 TRIANGLE NOTEHEAD UP WHITE;5 BLACK;4 LEFT WHITE",
     "5 BLACK;4 RIGHT WHITE;5 BLACK;4 DOWN WHITE;5 BLACK;4 UP RIGHT WHITE;6 BLACK",
     "2 MOON NOTEHEAD WHITE;4 BLACK;2 TRIANGLE-ROUND NOTEHEAD DOWN WHITE;5 BLACK",
     "2 PARENTHESIS NOTEHEAD;2 VOID NOTEHEAD;2 NOTEHEAD BLACK;2 NULL NOTEHEAD",
     "2 CLUSTER NOTEHEAD WHITE;4 BLACK;2 BREVE;2 WHOLE NOTE;2 HALF NOTE;2 QUARTER NOTE",
     "2 EIGHTH NOTE;2 SIXTEENTH NOTE;2 THIRTY-SECOND NOTE;2 SIXTY-FOURTH NOTE",
     "2 ONE HUNDRED TWENTY-EIGHTH NOTE;2 COMBINING STEM;3 SPRECHGESANG STEM;3 TREMOLO-1",
     "3 TREMOLO-2;3 TREMOLO-3;2 FINGERED TREMOLO-1;3 TREMOLO-2;3 TREMOLO-3",
     "2 COMBINING AUGMENTATION DOT;3 FLAG-1;3 FLAG-2;3 FLAG-3;3 FLAG-4;3 FLAG-5;2 BEGIN BEAM",
     "2 END BEAM;2 BEGIN TIE;2 END TIE;2 BEGIN SLUR;2 END SLUR;2 BEGIN PHRASE;2 END PHRASE",
     "2 COMBINING ACCENT;3 STACCATO;3 TENUTO;3 STACCATISSIMO;3 MARCATO;3 MARCATO-STACCATO",
     "3 ACCENT-STACCATO;3 LOURE;2 ARPEGGIATO UP;3 DOWN;2 COMBINING DOIT;3 RIP;3 FLIP;3 SMEAR",
     "3 BEND;3 DOUBLE TONGUE;3 TRIPLE TONGUE;2 RINFORZANDO;2 SUBITO;2 Z;2 PIANO;2 MEZZO",
     "2 FORTE;2 CRESCENDO;2 DECRESCENDO;2 GRACE NOTE SLASH;4 NO SLASH;2 TR;2 TURN",
     "2 INVERTED TURN;2 TURN SLASH;3 UP;2 ORNAMENT STROKE-1;3 STROKE-2;3 STROKE-3;3 STROKE-4",
     "3 STROKE-5;3 STROKE-6;3 STROKE-7;3 STROKE-8;3 STROKE-9;3 STROKE-10;3 STROKE-11",
     "2 HAUPTSTIMME;2 NEBENSTIMME;2 END OF STIMME;2 DEGREE SLASH;2 COMBINING DOWN BOW;3 UP BOW",
     "3 HARMONIC;3 SNAP PIZZICATO;2 PEDAL MARK;3 UP MARK;2 HALF PEDAL MARK;2 GLISSANDO UP",
     "3 DOWN;2 WITH FINGERNAILS;2 DAMP;3 ALL;2 MAXIMA;2 LONGA;2 BREVIS;2 SEMIBREVIS WHITE",
     "3 BLACK;2 MINIMA;3 BLACK;2 SEMIMINIMA WHITE;3 BLACK;2 FUSA WHITE;3 BLACK",
     "2 LONGA PERFECTA REST;3 IMPERFECTA REST;2 BREVIS REST;2 SEMIBREVIS REST;2 MINIMA REST",
     "2 SEMIMINIMA REST;2 TEMPUS PERFECTUM CUM PROLATIONE PERFECTA;6 IMPERFECTA",
     "6 PERFECTA DIMINUTION-1;3 IMPERFECTUM CUM PROLATIONE PERFECTA;6 IMPERFECTA",
     "7 DIMINUTION-1;7 DIMINUTION-2;7 DIMINUTION-3;2 CROIX;2 GREGORIAN C CLEF;3 F CLEF",
     "2 SQUARE B;2 VIRGA;2 PODATUS;2 CLIVIS;2 SCANDICUS;2 CLIMACUS;2 TORCULUS;2 PORRECTUS",
     "3 FLEXUS;2 SCANDICUS FLEXUS;2 TORCULUS RESUPINUS;2 PES SUBPUNCTIS;2 KIEVAN C CLEF",
     "3 END OF PIECE;3 FINAL NOTE;3 RECITATIVE MARK;3 WHOLE NOTE;3 HALF NOTE",
     "3 QUARTER NOTE STEM DOWN;6 UP;3 EIGHTH NOTE STEM DOWN;6 UP;3 FLAT SIGN;2 SORI;2 KORON"]),
   (119296,
    ["GREEK VOCAL NOTATION SYMBOL-1;3 SYMBOL-2;3 SYMBOL-3;3 SYMBOL-4;3 SYMBOL-5;3 SYMBOL-6",
     "3 SYMBOL-7;3 SYMBOL-8;3 SYMBOL-9;3 SYMBOL-10;3 SYMBOL-11;3 SYMBOL-12;3 SYMBOL-13",
     "3 SYMBOL-14;3 SYMBOL-15;3 SYMBOL-16;3 SYMBOL-17;3 SYMBOL-18;3 SYMBOL-19;3 SYMBOL-20",
     "3 SYMBOL-21;3 SYMBOL-22;3 SYMBOL-23;3 SYMBOL-24;3 SYMBOL-50;3 SYMBOL-51;3 SYMBOL-52",
     "3 SYMBOL-53;3 SYMBOL-54;1 INSTRUMENTAL NOTATION SYMBOL-1;3 SYMBOL-2;3 SYMBOL-4",
     "3 SYMBOL-5;3 SYMBOL-7;3 SYMBOL-8;3 SYMBOL-11;3 SYMBOL-12;3 SYMBOL-13;3 SYMBOL-14",
     "3 SYMBOL-17;3 SYMBOL-18;3 SYMBOL-19;3 SYMBOL-23;3 SYMBOL-24;3 SYMBOL-25;3 SYMBOL-26",
     "3 SYMBOL-27;3 SYMBOL-29;3 SYMBOL-30;3 SYMBOL-32;3 SYMBOL-36;3 SYMBOL-37;3 SYMBOL-38",
     "3 SYMBOL-39;3 SYMBOL-40;3 SYMBOL-42;3 SYMBOL-43;3 SYMBOL-45;3 SYMBOL-47;3 SYMBOL-48",
     "3 SYMBOL-49;3 SYMBOL-50;3 SYMBOL-51;3 SYMBOL-52;3 SYMBOL-53;3 SYMBOL-54",
     "COMBINING GREEK MUSICAL TRISEME;3 TETRASEME;3 PENTASEME;GREEK MUSICAL LEIMMA"]),
   (119520,
    ["MAYAN NUMERAL ZERO;2 ONE;2 TWO;2 THREE;2 FOUR;2 FIVE;2 SIX;2 SEVEN;2 EIGHT;2 NINE;2 TEN",
     "2 ELEVEN;2 TWELVE;2 THIRTEEN;2 FOURTEEN;2 FIFTEEN;2 SIXTEEN;2 SEVENTEEN;2 EIGHTEEN",
     "2 NINETEEN"]),
   (119552,
    ["MONOGRAM FOR EARTH;DIGRAM FOR HEAVENLY EARTH;2 HUMAN EARTH;2 EARTHLY HEAVEN;3 HUMAN",
     "2 EARTH;TETRAGRAM FOR CENTRE;2 FULL CIRCLE;2 MIRED;2 BARRIER;2 KEEPING SMALL",
     "2 CONTRARIETY;2 ASCENT;2 OPPOSITION;2 BRANCHING OUT;2 DEFECTIVENESS OR DISTORTION",
     "2 DIVERGENCE;2 YOUTHFULNESS;2 INCREASE;2 PENETRATION;2 REACH;2 CONTACT;2 HOLDING BACK",
     "2 WAITING;2 FOLLOWING;2 ADVANCE;2 RELEASE;2 RESISTANCE;2 EASE;2 JOY;2 CONTENTION",
     "2 ENDEAVOUR;2 DUTIES;2 CHANGE;2 DECISIVENESS;2 BOLD RESOLUTION;2 PACKING;2 LEGION",
     "2 CLOSENESS;2 KINSHIP;2 GATHERING;2 STRENGTH;2 PURITY;2 FULLNESS;2 RESIDENCE",
     "2 LAW OR MODEL;2 RESPONSE;2 GOING TO MEET;2 ENCOUNTERS;2 STOVE;2 GREATNESS;2 ENLARGEMENT",
     "2 PATTERN;2 RITUAL;2 FLIGHT;2 VASTNESS OR WASTING;2 CONSTANCY;2 MEASURE;2 ETERNITY",
     "2 UNITY;2 DIMINISHMENT;2 CLOSED MOUTH;2 GUARDEDNESS;2 GATHERING IN;2 MASSING",
     "2 ACCUMULATION;2 EMBELLISHMENT;2 DOUBT;2 WATCH;2 SINKING;2 INNER;2 DEPARTURE;2 DARKENING",
     "2 DIMMING;2 EXHAUSTION;2 SEVERANCE;2 STOPPAGE;2 HARDNESS;2 COMPLETION;2 CLOSURE",
     "2 FAILURE;2 AGGRAVATION;2 COMPLIANCE;2 ON THE VERGE;2 DIFFICULTIES;2 LABOURING",
     "2 FOSTERING"]),
   (119648,
    ["COUNTING ROD UNIT DIGIT ONE;4 TWO;4 THREE;4 FOUR;4 FIVE;4 SIX;4 SEVEN;4 EIGHT;4 NINE",
     "2 TENS DIGIT ONE;4 TWO;4 THREE;4 FOUR;4 FIVE;4 SIX;4 SEVEN;4 EIGHT;4 NINE",
     "IDEOGRAPHIC TALLY MARK ONE;3 TWO;3 THREE;3 FOUR;3 FIVE;TALLY MARK ONE;2 FIVE"]),
   (119808,
    ["MATHEMATICAL BOLD CAPITAL A;3 B;3 C;3 D;3 E;3 F;3 G;3 H;3 I;3 J;3 K;3 L;3 M;3 N;3 O;3 P",
     "3 Q;3 R;3 S;3 T;3 U;3 V;3 W;3 X;3 Y;3 Z;2 SMALL A;3 B;3 C;3 D;3 E;3 F;3 G;3 H;3 I;3 J",
     "3 K;3 L;3 M;3 N;3 O;3 P;3 Q;3 R;3 S;3 T;3 U;3 V;3 W;3 X;3 Y;3 Z;1 ITALIC CAPITAL A;3 B",
     "3 C;3 D;3 E;3 F;3 G;3 H;3 I;3 J;3 K;3 L;3 M;3 N;3 O;3 P;3 Q;3 R;3 S;3 T;3 U;3 V;3 W;3 X",
     "3 Y;3 Z;2 SMALL A;3 B;3 C;3 D;3 E;3 F;3 G"]),
   (119894,
    ["MATHEMATICAL ITALIC SMALL I;3 J;3 K;3 L;3 M;3 N;3 O;3 P;3 Q;3 R;3 S;3 T;3 U;3 V;3 W;3 X",
     "3 Y;3 Z;1 BOLD ITALIC CAPITAL A;4 B;4 C;4 D;4 E;4 F;4 G;4 H;4 I;4 J;4 K;4 L;4 M;4 N;4 O",
     "4 P;4 Q;4 R;4 S;4 T;4 U;4 V;4 W;4 X;4 Y;4 Z;3 SMALL A;4 B;4 C;4 D;4 E;4 F;4 G;4 H;4 I",
     "4 J;4 K;4 L;4 M;4 N;4 O;4 P;4 Q;4 R;4 S;4 T;4 U;4 V;4 W;4 X;4 Y;4 Z;1 SCRIPT CAPITAL A"]),
   (119966, ["MATHEMATICAL SCRIPT CAPITAL C;3 D"]),
   (119970, ["MATHEMATICAL SCRIPT CAPITAL G"]),
   (119973, ["MATHEMATICAL SCRIPT CAPITAL J;3 K"]),
   (119977, ["MATHEMATICAL SCRIPT CAPITAL N;3 O;3 P;3 Q"]),
   (119982, ["MATHEMATICAL SCRIPT CAPITAL S;3 T;3 U;3 V;3 W;3 X;3 Y;3 Z;2 SMALL A;3 B;3 C;3 D"]),
   (119995, ["MATHEMATICAL SCRIPT SMALL F"]),
   (119997, ["MATHEMATICAL SCRIPT SMALL H;3 I;3 J;3 K;3 L;3 M;3 N"]),
   (120005,
    ["MATHEMATICAL SCRIPT SMALL P;3 Q;3 R;3 S;3 T;3 U;3 V;3 W;3 X;3 Y;3 Z",
     "1 BOLD SCRIPT CAPITAL A;4 B;4 C;4 D;4 E;4 F;4 G;4 H;4 I;4 J;4 K;4 L;4 M;4 N;4 O;4 P;4 Q",
     "4 R;4 S;4 T;4 U;4 V;4 W;4 X;4 Y;4 Z;3 SMALL A;4 B;4 C;4 D;4 E;4 F;4 G;4 H;4 I;4 J;4 K",
     "4 L;4 M;4 N;4 O;4 P;4 Q;4 R;4 S;4 T;4 U;4 V;4 W;4 X;4 Y;4 Z;1 FRAKTUR CAPITAL A;3 B"]),
   (120071, ["MATHEMATICAL FRAKTUR CAPITAL D;3 E;3 F;3 G"]),
   (120077, ["MATHEMATICAL FRAKTUR CAPITAL J;3 K;3 L;3 M;3 N;3 O;3 P;3 Q"]),
   (120086, ["MATHEMATICAL FRAKTUR CAPITAL S;3 T;3 U;3 V;3 W;3 X;3 Y"]),
   (120094,
    ["MATHEMATICAL FRAKTUR SMALL A;3 B;3 C;3 D;3 E;3 F;3 G;3 H;3 I;3 J;3 K;3 L;3 M;3 N;3 O;3 P",
     "3 Q;3 R;3 S;3 T;3 U;3 V;3 W;3 X;3 Y;3 Z;1 DOUBLE-STRUCK CAPITAL A;3 B"]),
   (120123, ["MATHEMATICAL DOUBLE-STRUCK CAPITAL D;3 E;3 F;3 G"]),
   (120128, ["MATHEMATICAL DOUBLE-STRUCK CAPITAL I;3 J;3 K;3 L;3 M"]),
   (120134, ["MATHEMATICAL DOUBLE-STRUCK CAPITAL O"]),
   (120138, ["MATHEMATICAL DOUBLE-STRUCK CAPITAL S;3 T;3 U;3 V;3 W;3 X;3 Y"]),
   (120146,
    ["MATHEMATICAL DOUBLE-STRUCK SMALL A;3 B;3 C;3 D;3 E;3 F;3 G;3 H;3 I;3 J;3 K;3 L;3 M;3 N",
     "3 O;3 P;3 Q;3 R;3 S;3 T;3 U;3 V;3 W;3 X;3 Y;3 Z;1 BOLD FRAKTUR CAPITAL A;4 B;4 C;4 D;4 E",
     "4 F;4 G;4 H;4 I;4 J;4 K;4 L;4 M;4 N;4 O;4 P;4 Q;4 R;4 S;4 T;4 U;4 V;4 W;4 X;4 Y;4 Z",
     "3 SMALL A;4 B;4 C;4 D;4 E;4 F;4 G;4 H;4 I;4 J;4 K;4 L;4 M;4 N;4 O;4 P;4 Q;4 R;4 S;4 T",
     "4 U;4 V;4 W;4 X;4 Y;4 Z;1 SANS-SERIF CAPITAL A;3 B;3 C;3 D;3 E;3 F;3 G;3 H;3 I;3 J;3 K",
     "3 L;3 M;3 N;3 O;3 P;3 Q;3 R;3 S;3 T;3 U;3 V;3 W;3 X;3 Y;3 Z;2 SMALL A;3 B;3 C;3 D;3 E",
     "3 F;3 G;3 H;3 I;3 J;3 K;3 L;3 M;3 N;3 O;3 P;3 Q;3 R;3 S;3 T;3 U;3 V;3 W;3 X;3 Y;3 Z",
     "2 BOLD CAPITAL A;4 B;4 C;4 D;4 E;4 F;4 G;4 H;4 I;4 J;4 K;4 L;4 M;4 N;4 O;4 P;4 Q;4 R;4 S",
     "4 T;4 U;4 V;4 W;4 X;4 Y;4 Z;3 SMALL A;4 B;4 C;4 D;4 E;4 F;4 G;4 H;4 I;4 J;4 K;4 L;4 M",
     "4 N;4 O;4 P;4 Q;4 R;4 S;4 T;4 U;4 V;4 W;4 X;4 Y;4 Z;2 ITALIC CAPITAL A;4 B;4 C;4 D;4 E",
     "4 F;4 G;4 H;4 I;4 J;4 K;4 L;4 M;4 N;4 O;4 P;4 Q;4 R;4 S;4 T;4 U;4 V;4 W;4 X;4 Y;4 Z",
     "3 SMALL A;4 B;4 C;4 D;4 E;4 F;4 G;4 H;4 I;4 J;4 K;4 L;4 M;4 N;4 O;4 P;4 Q;4 R;4 S;4 T",
     "4 U;4 V;4 W;4 X;4 Y;4 Z;2 BOLD ITALIC CAPITAL A;5 B;5 C;5 D;5 E;5 F;5 G;5 H;5 I;5 J;5 K",
     "5 L;5 M;5 N;5 O;5 P;5 Q;5 R;5 S;5 T;5 U;5 V;5 W;5 X;5 Y;5 Z;4 SMALL A;5 B;5 C;5 D;5 E",
     "5 F;5 G;5 H;5 I;5 J;5 K;5 L;5 M;5 N;5 O;5 P;5 Q;5 R;5 S;5 T;5 U;5 V;5 W;5 X;5 Y;5 Z",
     "1 MONOSPACE CAPITAL A;3 B;3 C;3 D;3 E;3 F;3 G;3 H;3 I;3 J;3 K;3 L;3 M;3 N;3 O;3 P;3 Q",
     "3 R;3 S;3 T;3 U;3 V;3 W;3 X;3 Y;3 Z;2 SMALL A;3 B;3 C;3 D;3 E;3 F;3 G;3 H;3 I;3 J;3 K",
     "3 L;3 M;3 N;3 O;3 P;3 Q;3 R;3 S;3 T;3 U;3 V;3 W;3 X;3 Y;3 Z;1 ITALIC SMALL DOTLESS I;4 J"]),
   (120488,
    ["MATHEMATICAL BOLD CAPITAL ALPHA;3 BETA;3 GAMMA;3 DELTA;3 EPSILON;3 ZETA;3 ETA;3 THETA",
     "3 IOTA;3 KAPPA;3 LAMDA;3 MU;3 NU;3 XI;3 OMICRON;3 PI;3 RHO;3 THETA SYMBOL;3 SIGMA;3 TAU",
     "3 UPSILON;3 PHI;3 CHI;3 PSI;3 OMEGA;2 NABLA;2 SMALL ALPHA;3 BETA;3 GAMMA;3 DELTA",
     "3 EPSILON;3 ZETA;3 ETA;3 THETA;3 IOTA;3 KAPPA;3 LAMDA;3 MU;3 NU;3 XI;3 OMICRON;3 PI",
     "3 RHO;3 FINAL SIGMA;3 SIGMA;3 TAU;3 UPSILON;3 PHI;3 CHI;3 PSI;3 OMEGA",
     "2 PARTIAL DIFFERENTIAL;2 EPSILON SYMBOL;2 THETA SYMBOL;2 KAPPA SYMBOL;2 PHI SYMBOL",
     "2 RHO SYMBOL;2 PI SYMBOL;1 ITALIC CAPITAL ALPHA;3 BETA;3 GAMMA;3 DELTA;3 EPSILON;3 ZETA",
     "3 ETA;3 THETA;3 IOTA;3 KAPPA;3 LAMDA;3 MU;3 NU;3 XI;3 OMICRON;3 PI;3 RHO;3 THETA SYMBOL",
     "3 SIGMA;3 TAU;3 UPSILON;3 PHI;3 CHI;3 PSI;3 OMEGA;2 NABLA;2 SMALL ALPHA;3 BETA;3 GAMMA",
     "3 DELTA;3 EPSILON;3 ZETA;3 ETA;3 THETA;3 IOTA;3 KAPPA;3 LAMDA;3 MU;3 NU;3 XI;3 OMICRON",
     "3 PI;3 RHO;3 FINAL SIGMA;3 SIGMA;3 TAU;3 UPSILON;3 PHI;3 CHI;3 PSI;3 OMEGA",
     "2 PARTIAL DIFFERENTIAL;2 EPSILON SYMBOL;2 THETA SYMBOL;2 KAPPA SYMBOL;2 PHI SYMBOL",
     "2 RHO SYMBOL;2 PI SYMBOL;1 BOLD ITALIC CAPITAL ALPHA;4 BETA;4 GAMMA;4 DELTA;4 EPSILON",
     "4 ZETA;4 ETA;4 THETA;4 IOTA;4 KAPPA;4 LAMDA;4 MU;4 NU;4 XI;4 OMICRON;4 PI;4 RHO",
     "4 THETA SYMBOL;4 SIGMA;4 TAU;4 UPSILON;4 PHI;4 CHI;4 PSI;4 OMEGA;3 NABLA;3 SMALL ALPHA",
     "4 BETA;4 GAMMA;4 DELTA;4 EPSILON;4 ZETA;4 ETA;4 THETA;4 IOTA;4 KAPPA;4 LAMDA;4 MU;4 NU",
     "4 XI;4 OMICRON;4 PI;4 RHO;4 FINAL SIGMA;4 SIGMA;4 TAU;4 UPSILON;4 PHI;4 CHI;4 PSI",
     "4 OMEGA;3 PARTIAL DIFFERENTIAL;3 EPSILON SYMBOL;3 THETA SYMBOL;3 KAPPA SYMBOL",
     "3 PHI SYMBOL;3 RHO SYMBOL;3 PI SYMBOL;1 SANS-SERIF BOLD CAPITAL ALPHA;4 BETA;4 GAMMA",
     "4 DELTA;4 EPSILON;4 ZETA;4 ETA;4 THETA;4 IOTA;4 KAPPA;4 LAMDA;4 MU;4 NU;4 XI;4 OMICRON",
     "4 PI;4 RHO;4 THETA SYMBOL;4 SIGMA;4 TAU;4 UPSILON;4 PHI;4 CHI;4 PSI;4 OMEGA;3 NABLA",
     "3 SMALL ALPHA;4 BETA;4 GAMMA;4 DELTA;4 EPSILON;4 ZETA;4 ETA;4 THETA;4 IOTA;4 KAPPA",
     "4 LAMDA;4 MU;4 NU;4 XI;4 OMICRON;4 PI;4 RHO;4 FINAL SIGMA;4 SIGMA;4 TAU;4 UPSILON;4 PHI",
     "4 CHI;4 PSI;4 OMEGA;3 PARTIAL DIFFERENTIAL;3 EPSILON SYMBOL;3 THETA SYMBOL",
     "3 KAPPA SYMBOL;3 PHI SYMBOL;3 RHO SYMBOL;3 PI SYMBOL;3 ITALIC CAPITAL ALPHA;5 BETA",
     "5 GAMMA;5 DELTA;5 EPSILON;5 ZETA;5 ETA;5 THETA;5 IOTA;5 KAPPA;5 LAMDA;5 MU;5 NU;5 XI",
     "5 OMICRON;5 PI;5 RHO;5 THETA SYMBOL;5 SIGMA;5 TAU;5 UPSILON;5 PHI;5 CHI;5 PSI;5 OMEGA",
     "4 NABLA;4 SMALL ALPHA;5 BETA;5 GAMMA;5 DELTA;5 EPSILON;5 ZETA;5 ETA;5 THETA;5 IOTA",
     "5 KAPPA;5 LAMDA;5 MU;5 NU;5 XI;5 OMICRON;5 PI;5 RHO;5 FINAL SIGMA;5 SIGMA;5 TAU",
     "5 UPSILON;5 PHI;5 CHI;5 PSI;5 OMEGA;4 PARTIAL DIFFERENTIAL;4 EPSILON SYMBOL",
     "4 THETA SYMBOL;4 KAPPA SYMBOL;4 PHI SYMBOL;4 RHO SYMBOL;4 PI SYMBOL",
     "1 BOLD CAPITAL DIGAMMA;2 SMALL DIGAMMA"]),
   (120782,
    ["MATHEMATICAL BOLD DIGIT ZERO;3 ONE;3 TWO;3 THREE;3 FOUR;3 FIVE;3 SIX;3 SEVEN;3 EIGHT",
     "3 NINE;1 DOUBLE-STRUCK DIGIT ZERO;3 ONE;3 TWO;3 THREE;3 FOUR;3 FIVE;3 SIX;3 SEVEN",
     "3 EIGHT;3 NINE;1 SANS-SERIF DIGIT ZERO;3 ONE;3 TWO;3 THREE;3 FOUR;3 FIVE;3 SIX;3 SEVEN",
     "3 EIGHT;3 NINE;2 BOLD DIGIT ZERO;4 ONE;4 TWO;4 THREE;4 FOUR;4 FIVE;4 SIX;4 SEVEN;4 EIGHT",
     "4 NINE;1 MONOSPACE DIGIT ZERO;3 ONE;3 TWO;3 THREE;3 FOUR;3 FIVE;3 SIX;3 SEVEN;3 EIGHT",
     "3 NINE;SIGNWRITING HAND-FIST INDEX;1 HAND-CIRCLE INDEX;1 HAND-CUP INDEX",
     "1 HAND-OVAL INDEX;1 HAND-HINGE INDEX;1 HAND-ANGLE INDEX;1 HAND-FIST INDEX BENT",
     "1 HAND-CIRCLE INDEX BENT;1 HAND-FIST THUMB UNDER INDEX BENT;2 INDEX RAISED KNUCKLE",
     "3 CUPPED;3 HINGED;4 LOW;1 HAND-CIRCLE INDEX HINGE;1 HAND-FIST INDEX MIDDLE",
     "1 HAND-CIRCLE INDEX MIDDLE;1 HAND-FIST INDEX MIDDLE BENT;4 RAISED KNUCKLES;4 HINGED",
     "3 UP MIDDLE HINGED;3 HINGED MIDDLE UP;3 MIDDLE CONJOINED;5 INDEX BENT;5 MIDDLE BENT",
     "5 CUPPED;5 HINGED;4 CROSSED;1 HAND-CIRCLE INDEX MIDDLE CROSSED",
     "1 HAND-FIST MIDDLE BENT OVER INDEX;2 INDEX BENT OVER MIDDLE;3 MIDDLE THUMB",
     "1 HAND-CIRCLE INDEX MIDDLE THUMB;1 HAND-FIST INDEX MIDDLE STRAIGHT THUMB BENT",
     "4 BENT THUMB STRAIGHT;4 THUMB BENT;4 HINGED SPREAD THUMB SIDE",
     "3 UP MIDDLE HINGED THUMB SIDE;7 CONJOINED;3 HINGED MIDDLE UP THUMB SIDE",
     "3 MIDDLE UP SPREAD THUMB FORWARD;4 THUMB CUPPED;5 CIRCLED;5 HOOKED;5 HINGED",
     "2 THUMB BETWEEN INDEX MIDDLE STRAIGHT;2 INDEX MIDDLE CONJOINED THUMB SIDE;7 CONJOINED",
     "7 BENT;2 MIDDLE THUMB HOOKED INDEX UP;2 INDEX THUMB HOOKED MIDDLE UP",
     "3 MIDDLE CONJOINED HINGED THUMB SIDE;4 CROSSED THUMB SIDE;4 CONJOINED THUMB FORWARD",
     "5 CUPPED THUMB FORWARD;2 MIDDLE THUMB CUPPED INDEX UP;2 INDEX THUMB CUPPED MIDDLE UP",
     "2 MIDDLE THUMB CIRCLED INDEX UP;6 HINGED;2 INDEX THUMB ANGLED OUT MIDDLE UP",
     "5 IN MIDDLE UP;4 CIRCLED MIDDLE UP;3 MIDDLE THUMB CONJOINED HINGED;5 ANGLED OUT;5 ANGLED",
     "2 MIDDLE THUMB ANGLED OUT INDEX UP;7 CROSSED;5 INDEX UP",
     "2 INDEX THUMB HOOKED MIDDLE HINGED;1 HAND-FLAT FOUR FINGERS;4 BENT;4 HINGED;4 CONJOINED",
     "5 SPLIT;1 HAND-CLAW FOUR FINGERS CONJOINED;1 HAND-FIST FOUR FINGERS CONJOINED BENT",
     "1 HAND-HINGE FOUR FINGERS CONJOINED;1 HAND-FLAT FIVE FINGERS SPREAD",
     "2 HEEL FIVE FINGERS SPREAD;2 FIVE FINGERS SPREAD FOUR BENT",
     "2 HEEL FIVE FINGERS SPREAD FOUR BENT;2 FIVE FINGERS SPREAD BENT",
     "2 HEEL FIVE FINGERS SPREAD BENT;2 FIVE FINGERS SPREAD THUMB FORWARD",
     "1 HAND-CUP FIVE FINGERS SPREAD;5 OPEN;1 HAND-HINGE FIVE FINGERS SPREAD OPEN",
     "1 HAND-OVAL FIVE FINGERS SPREAD;1 HAND-FLAT FIVE FINGERS SPREAD HINGED;6 THUMB SIDE",
     "6 NO THUMB;1 HAND-FLAT;2 BETWEEN PALM FACINGS;2 HEEL;2 THUMB SIDE;2 HEEL THUMB SIDE",
     "2 THUMB BENT;3 FORWARD;2 SPLIT INDEX THUMB SIDE;3 CENTRE;4 THUMB SIDE;6 BENT;3 LITTLE",
     "1 HAND-CLAW;2 THUMB SIDE;2 NO THUMB;2 THUMB FORWARD;1 HAND-HOOK CURLICUE;1 HAND-HOOK",
     "1 HAND-CUP OPEN;1 HAND-CUP;2 OPEN THUMB SIDE;2 THUMB SIDE;2 OPEN NO THUMB;2 NO THUMB",
     "2 OPEN THUMB FORWARD;2 THUMB FORWARD;1 HAND-CURLICUE OPEN;1 HAND-CURLICUE;1 HAND-CIRCLE",
     "1 HAND-OVAL;2 THUMB SIDE;2 NO THUMB;2 THUMB FORWARD;1 HAND-HINGE OPEN;3 THUMB FORWARD",
     "1 HAND-HINGE;2 SMALL;2 OPEN THUMB SIDE;2 THUMB SIDE;2 OPEN NO THUMB;2 NO THUMB",
     "2 THUMB SIDE TOUCHING INDEX;3 BETWEEN MIDDLE RING;1 HAND-ANGLE",
     "1 HAND-FIST INDEX MIDDLE RING;1 HAND-CIRCLE INDEX MIDDLE RING",
     "1 HAND-HINGE INDEX MIDDLE RING;1 HAND-ANGLE INDEX MIDDLE RING;1 HAND-HINGE LITTLE",
     "1 HAND-FIST INDEX MIDDLE RING BENT;5 CONJOINED;1 HAND-HINGE INDEX MIDDLE RING CONJOINED",
     "1 HAND-FIST LITTLE DOWN;4 RIPPLE STRAIGHT;5 CURVED;4 OTHERS CIRCLED;3 UP",
     "2 THUMB UNDER LITTLE UP;1 HAND-CIRCLE LITTLE UP;1 HAND-OVAL LITTLE UP",
     "1 HAND-ANGLE LITTLE UP;1 HAND-FIST LITTLE RAISED KNUCKLE;3 BENT;3 TOUCHES THUMB;3 THUMB",
     "1 HAND-HINGE LITTLE THUMB;1 HAND-FIST LITTLE INDEX THUMB;1 HAND-HINGE LITTLE INDEX THUMB",
     "1 HAND-ANGLE LITTLE INDEX THUMB INDEX THUMB OUT;6 THUMB;1 HAND-FIST LITTLE INDEX",
     "1 HAND-CIRCLE LITTLE INDEX;1 HAND-HINGE LITTLE INDEX;1 HAND-ANGLE LITTLE INDEX",
     "1 HAND-FIST INDEX MIDDLE LITTLE;1 HAND-CIRCLE INDEX MIDDLE LITTLE",
     "1 HAND-HINGE INDEX MIDDLE LITTLE;2 RING;1 HAND-ANGLE INDEX MIDDLE LITTLE",
     "1 HAND-FIST INDEX MIDDLE CROSS LITTLE;1 HAND-CIRCLE INDEX MIDDLE CROSS LITTLE",
     "1 HAND-FIST RING DOWN;1 HAND-HINGE RING DOWN INDEX THUMB HOOK MIDDLE",
     "1 HAND-ANGLE RING DOWN MIDDLE THUMB INDEX CROSS;1 HAND-FIST RING UP;3 RAISED KNUCKLE",
     "3 LITTLE;1 HAND-CIRCLE RING LITTLE;1 HAND-OVAL RING LITTLE;1 HAND-ANGLE RING LITTLE",
     "1 HAND-FIST RING MIDDLE;4 CONJOINED;4 RAISED KNUCKLES;3 INDEX;3 THUMB",
     "1 HAND-HOOK RING THUMB;1 HAND-FIST INDEX RING LITTLE;1 HAND-CIRCLE INDEX RING LITTLE",
     "1 HAND-CURLICUE INDEX RING LITTLE ON;1 HAND-HOOK INDEX RING LITTLE OUT;5 IN;5 UNDER",
     "1 HAND-CUP INDEX RING LITTLE;1 HAND-HINGE INDEX RING LITTLE",
     "1 HAND-ANGLE INDEX RING LITTLE OUT;4 LITTLE;1 HAND-FIST MIDDLE DOWN;1 HAND-HINGE MIDDLE",
     "1 HAND-FIST MIDDLE UP;1 HAND-CIRCLE MIDDLE UP;1 HAND-FIST MIDDLE RAISED KNUCKLE",
     "3 UP THUMB SIDE;1 HAND-HOOK MIDDLE THUMB;1 HAND-FIST MIDDLE THUMB LITTLE;3 LITTLE",
     "3 RING LITTLE;1 HAND-CIRCLE MIDDLE RING LITTLE;1 HAND-CURLICUE MIDDLE RING LITTLE ON",
     "1 HAND-CUP MIDDLE RING LITTLE;1 HAND-HINGE MIDDLE RING LITTLE",
     "1 HAND-ANGLE MIDDLE RING LITTLE OUT;5 IN;4 LITTLE;1 HAND-CIRCLE MIDDLE RING LITTLE BENT",
     "1 HAND-CLAW MIDDLE RING LITTLE CONJOINED;6 SIDE",
     "1 HAND-HOOK MIDDLE RING LITTLE CONJOINED OUT;6 IN;5 CONJOINED;1 HAND-HINGE INDEX HINGED",
     "1 HAND-FIST INDEX THUMB SIDE;1 HAND-HINGE INDEX THUMB SIDE",
     "1 HAND-FIST INDEX THUMB SIDE THUMB DIAGONAL;6 CONJOINED;6 BENT;5 INDEX BENT;5 BOTH BENT",
     "5 INDEX HINGE;4 FORWARD INDEX STRAIGHT;6 BENT;4 HOOK;4 CURLICUE;4 CURVE THUMB INSIDE",
     "1 HAND-CLAW INDEX THUMB CURVE THUMB INSIDE;1 HAND-FIST INDEX THUMB CURVE THUMB UNDER",
     "4 CIRCLE;1 HAND-CUP INDEX THUMB;4 OPEN;1 HAND-HINGE INDEX THUMB OPEN;4 LARGE;3 THUMB",
     "4 SMALL;1 HAND-ANGLE INDEX THUMB OUT;4 IN;3 THUMB;1 HAND-FIST THUMB;3 HEEL",
     "3 SIDE DIAGONAL;4 CONJOINED;4 BENT;3 FORWARD;3 BETWEEN INDEX MIDDLE;4 MIDDLE RING",
     "4 RING LITTLE;3 UNDER TWO FINGERS;3 OVER TWO FINGERS;3 UNDER THREE FINGERS",
     "4 FOUR FINGERS;3 OVER FOUR RAISED KNUCKLES;1 HAND-FIST;2 HEEL;1 TOUCH SINGLE;2 MULTIPLE",
     "2 BETWEEN;1 GRASP SINGLE;2 MULTIPLE;2 BETWEEN;1 STRIKE SINGLE;2 MULTIPLE;2 BETWEEN",
     "1 BRUSH SINGLE;2 MULTIPLE;2 BETWEEN;1 RUB SINGLE;2 MULTIPLE;2 BETWEEN;1 SURFACE SYMBOLS",
     "2 BETWEEN;1 SQUEEZE LARGE SINGLE;2 SMALL SINGLE;2 LARGE MULTIPLE;2 SMALL MULTIPLE",
     "2 SEQUENTIAL;1 FLICK LARGE SINGLE;2 SMALL SINGLE;2 LARGE MULTIPLE;2 SMALL MULTIPLE",
     "2 SEQUENTIAL;1 SQUEEZE FLICK ALTERNATING;1 MOVEMENT-HINGE UP DOWN LARGE;4 SMALL",
     "3 SEQUENTIAL;2 DOWN SEQUENTIAL;2 UP DOWN ALTERNATING LARGE;5 SMALL",
     "2 SIDE TO SIDE SCISSORS;1 MOVEMENT-WALLPLANE FINGER CONTACT",
     "1 MOVEMENT-FLOORPLANE FINGER CONTACT;1 MOVEMENT-WALLPLANE SINGLE STRAIGHT SMALL;4 MEDIUM",
     "4 LARGE;4 LARGEST;3 WRIST FLEX;2 DOUBLE STRAIGHT;3 WRIST FLEX;3 ALTERNATING;4 WRIST FLEX",
     "2 CROSS;2 TRIPLE STRAIGHT MOVEMENT;3 WRIST FLEX;3 ALTERNATING;4 WRIST FLEX;2 BEND SMALL",
     "3 MEDIUM;3 LARGE;2 CORNER SMALL;3 MEDIUM;3 LARGE;3 ROTATION;2 CHECK SMALL;3 MEDIUM",
     "3 LARGE;2 BOX SMALL;3 MEDIUM;3 LARGE;2 ZIGZAG SMALL;3 MEDIUM;3 LARGE;2 PEAKS SMALL",
     "3 MEDIUM;3 LARGE;1 TRAVEL-WALLPLANE ROTATION-WALLPLANE SINGLE;3 DOUBLE;3 ALTERNATING",
     "2 ROTATION-FLOORPLANE SINGLE;3 DOUBLE;3 ALTERNATING;2 SHAKING;2 ARM SPIRAL SINGLE",
     "4 DOUBLE;4 TRIPLE;1 MOVEMENT-DIAGONAL AWAY SMALL;3 MEDIUM;3 LARGE;3 LARGEST",
     "2 TOWARDS SMALL;3 MEDIUM;3 LARGE;3 LARGEST;2 BETWEEN AWAY SMALL;4 MEDIUM;4 LARGE",
     "4 LARGEST;3 TOWARDS SMALL;4 MEDIUM;4 LARGE;4 LARGEST",
     "1 MOVEMENT-FLOORPLANE SINGLE STRAIGHT SMALL;4 MEDIUM;4 LARGE;4 LARGEST;3 WRIST FLEX",
     "2 DOUBLE STRAIGHT;3 WRIST FLEX;3 ALTERNATING;4 WRIST FLEX;2 CROSS",
     "2 TRIPLE STRAIGHT MOVEMENT;3 WRIST FLEX;3 ALTERNATING MOVEMENT;4 WRIST FLEX;2 BEND",
     "2 CORNER SMALL;3 MEDIUM;3 LARGE;2 CHECK;2 BOX SMALL;3 MEDIUM;3 LARGE;2 ZIGZAG SMALL",
     "3 MEDIUM;3 LARGE;2 PEAKS SMALL;3 MEDIUM;3 LARGE",
     "1 TRAVEL-FLOORPLANE ROTATION-FLOORPLANE SINGLE;3 DOUBLE;3 ALTERNATING",
     "2 ROTATION-WALLPLANE SINGLE;3 DOUBLE;3 ALTERNATING;2 SHAKING",
     "1 MOVEMENT-WALLPLANE CURVE QUARTER SMALL;4 MEDIUM;4 LARGE;4 LARGEST;3 HALF-CIRCLE SMALL",
     "4 MEDIUM;4 LARGE;4 LARGEST;3 THREE-QUARTER CIRCLE SMALL;5 MEDIUM;2 HUMP SMALL;3 MEDIUM",
     "3 LARGE;2 LOOP SMALL;3 MEDIUM;3 LARGE;3 SMALL DOUBLE;2 WAVE CURVE DOUBLE SMALL;5 MEDIUM",
     "5 LARGE;4 TRIPLE SMALL;5 MEDIUM;5 LARGE;2 CURVE THEN STRAIGHT;2 CURVED CROSS SMALL",
     "4 MEDIUM;1 ROTATION-WALLPLANE SINGLE;2 DOUBLE;2 ALTERNATE;1 MOVEMENT-WALLPLANE SHAKING",
     "2 CURVE HITTING FRONT WALL;2 HUMP HITTING FRONT WALL;2 LOOP HITTING FRONT WALL",
     "2 WAVE HITTING FRONT WALL;1 ROTATION-WALLPLANE SINGLE HITTING FRONT WALL",
     "2 DOUBLE HITTING FRONT WALL;2 ALTERNATING HITTING FRONT WALL",
     "1 MOVEMENT-WALLPLANE CURVE HITTING CHEST;2 HUMP HITTING CHEST;2 LOOP HITTING CHEST",
     "2 WAVE HITTING CHEST;1 ROTATION-WALLPLANE SINGLE HITTING CHEST;2 DOUBLE HITTING CHEST",
     "2 ALTERNATING HITTING CHEST;1 MOVEMENT-WALLPLANE WAVE DIAGONAL PATH SMALL;5 MEDIUM",
     "5 LARGE;1 MOVEMENT-FLOORPLANE CURVE HITTING CEILING SMALL;5 LARGE",
     "2 HUMP HITTING CEILING SMALL DOUBLE;5 LARGE DOUBLE;5 SMALL TRIPLE;5 LARGE TRIPLE",
     "2 LOOP HITTING CEILING SMALL SINGLE;5 LARGE SINGLE;5 SMALL DOUBLE;5 LARGE DOUBLE",
     "2 WAVE HITTING CEILING SMALL;5 LARGE;1 ROTATION-FLOORPLANE SINGLE HITTING CEILING",
     "2 DOUBLE HITTING CEILING;2 ALTERNATING HITTING CEILING",
     "1 MOVEMENT-FLOORPLANE CURVE HITTING FLOOR SMALL;5 LARGE",
     "2 HUMP HITTING FLOOR SMALL DOUBLE;5 LARGE DOUBLE;5 TRIPLE SMALL TRIPLE;6 LARGE TRIPLE",
     "2 LOOP HITTING FLOOR SMALL SINGLE;5 LARGE SINGLE;5 SMALL DOUBLE;5 LARGE DOUBLE",
     "2 WAVE HITTING FLOOR SMALL;5 LARGE;1 ROTATION-FLOORPLANE SINGLE HITTING FLOOR",
     "2 DOUBLE HITTING FLOOR;2 ALTERNATING HITTING FLOOR;1 MOVEMENT-FLOORPLANE CURVE SMALL",
     "3 MEDIUM;3 LARGE;3 LARGEST;3 COMBINED;2 HUMP SMALL;2 LOOP SMALL;2 WAVE SNAKE;3 SMALL",
     "3 LARGE;1 ROTATION-FLOORPLANE SINGLE;2 DOUBLE;2 ALTERNATING",
     "1 MOVEMENT-FLOORPLANE SHAKING PARALLEL;1 MOVEMENT-WALLPLANE ARM CIRCLE SMALL SINGLE",
     "4 MEDIUM SINGLE;4 SMALL DOUBLE;4 MEDIUM DOUBLE",
     "1 MOVEMENT-FLOORPLANE ARM CIRCLE HITTING WALL SMALL SINGLE;6 MEDIUM SINGLE",
     "6 LARGE SINGLE;6 SMALL DOUBLE;6 MEDIUM DOUBLE;6 LARGE DOUBLE",
     "1 MOVEMENT-WALLPLANE WRIST CIRCLE FRONT SINGLE;5 DOUBLE",
     "1 MOVEMENT-FLOORPLANE WRIST CIRCLE HITTING WALL SINGLE;6 DOUBLE",
     "1 MOVEMENT-WALLPLANE FINGER CIRCLES SINGLE;4 DOUBLE",
     "1 MOVEMENT-FLOORPLANE FINGER CIRCLES HITTING WALL SINGLE;6 DOUBLE",
     "1 DYNAMIC ARROWHEAD SMALL;3 LARGE;2 FAST;2 SLOW;2 TENSE;2 RELAXED;2 SIMULTANEOUS",
     "3 ALTERNATING;2 EVERY OTHER TIME;2 GRADUAL;1 HEAD;2 RIM;2 MOVEMENT-WALLPLANE STRAIGHT",
     "3 TILT;2 MOVEMENT-FLOORPLANE STRAIGHT;2 MOVEMENT-WALLPLANE CURVE",
     "2 MOVEMENT-FLOORPLANE CURVE;2 MOVEMENT CIRCLE",
     "1 FACE DIRECTION POSITION NOSE FORWARD TILTING;5 UP OR DOWN;8 TILTING",
     "1 EYEBROWS STRAIGHT UP;3 NEUTRAL;3 DOWN;1 DREAMY EYEBROWS NEUTRAL DOWN;3 DOWN NEUTRAL",
     "3 UP NEUTRAL;3 NEUTRAL UP;1 FOREHEAD NEUTRAL;2 CONTACT;2 WRINKLED;1 EYES OPEN;2 SQUEEZED",
     "2 CLOSED;1 EYE BLINK SINGLE;3 MULTIPLE;1 EYES HALF OPEN;2 WIDE OPEN;2 HALF CLOSED",
     "2 WIDENING MOVEMENT;1 EYE WINK;1 EYELASHES UP;2 DOWN;2 FLUTTERING",
     "1 EYEGAZE-WALLPLANE STRAIGHT;3 DOUBLE;3 ALTERNATING;1 EYEGAZE-FLOORPLANE STRAIGHT",
     "3 DOUBLE;3 ALTERNATING;1 EYEGAZE-WALLPLANE CURVED;1 EYEGAZE-FLOORPLANE CURVED",
     "1 EYEGAZE-WALLPLANE CIRCLING;1 CHEEKS PUFFED;2 NEUTRAL;2 SUCKED;1 TENSE CHEEKS HIGH",
     "3 MIDDLE;3 LOW;1 EARS;1 NOSE NEUTRAL;2 CONTACT;2 WRINKLES;2 WIGGLES;1 AIR BLOWING OUT",
     "2 SUCKING IN;2 BLOW SMALL ROTATIONS;2 SUCK SMALL ROTATIONS;1 BREATH INHALE;2 EXHALE",
     "1 MOUTH CLOSED NEUTRAL;3 FORWARD;3 CONTACT;2 SMILE;3 WRINKLED;3 OPEN;2 FROWN;3 WRINKLED",
     "3 OPEN;2 OPEN CIRCLE;3 FORWARD;3 WRINKLED;3 OVAL;4 WRINKLED;4 YAWN;3 RECTANGLE",
     "4 WRINKLED;4 YAWN;2 KISS;3 FORWARD;3 WRINKLED;2 TENSE;3 FORWARD;3 SUCKED",
     "1 LIPS PRESSED TOGETHER;1 LIP LOWER OVER UPPER;2 UPPER OVER LOWER;1 MOUTH CORNERS",
     "2 WRINKLES SINGLE;3 DOUBLE;1 TONGUE STICKING OUT FAR;2 LICKING LIPS;2 TIP BETWEEN LIPS",
     "3 TOUCHING INSIDE MOUTH;2 INSIDE MOUTH RELAXED;2 MOVES AGAINST CHEEK",
     "2 CENTRE STICKING OUT;3 INSIDE MOUTH;1 TEETH;2 MOVEMENT;2 ON TONGUE;4 MOVEMENT;3 LIPS",
     "4 MOVEMENT;2 BITE LIPS;1 MOVEMENT-WALLPLANE JAW;1 MOVEMENT-FLOORPLANE JAW;1 NECK;1 HAIR",
     "1 EXCITEMENT;1 SHOULDER HIP SPINE;3 POSITIONS;1 WALLPLANE SHOULDER HIP MOVE",
     "1 FLOORPLANE SHOULDER HIP MOVE;1 SHOULDER TILTING FROM WAIST",
     "1 TORSO-WALLPLANE STRAIGHT STRETCH;2 CURVED BEND;1 TORSO-FLOORPLANE TWISTING",
     "1 UPPER BODY TILTING FROM HIP JOINTS;1 LIMB COMBINATION;2 LENGTH-1;2 LENGTH-2;2 LENGTH-3",
     "2 LENGTH-4;2 LENGTH-5;2 LENGTH-6;2 LENGTH-7;1 FINGER;1 LOCATION-WALLPLANE SPACE",
     "1 LOCATION-FLOORPLANE SPACE;1 LOCATION HEIGHT;2 WIDTH;2 DEPTH;2 HEAD NECK;2 TORSO",
     "2 LIMBS DIGITS;1 COMMA;1 FULL STOP;1 SEMICOLON;1 COLON;1 PARENTHESIS"]),
   (121499, ["SIGNWRITING FILL MODIFIER-2;2 MODIFIER-3;2 MODIFIER-4;2 MODIFIER-5;2 MODIFIER-6"]),
   (121505,
    ["SIGNWRITING ROTATION MODIFIER-2;2 MODIFIER-3;2 MODIFIER-4;2 MODIFIER-5;2 MODIFIER-6",
     "2 MODIFIER-7;2 MODIFIER-8;2 MODIFIER-9;2 MODIFIER-10;2 MODIFIER-11;2 MODIFIER-12",
     "2 MODIFIER-13;2 MODIFIER-14;2 MODIFIER-15;2 MODIFIER-16"]),
   (122624,
    ["LATIN SMALL LETTER FENG DIGRAPH WITH TRILL;3 REVERSED SCRIPT G",
     "1 LETTER SMALL CAPITAL TURNED G;1 SMALL LETTER REVERSED K",
     "1 LETTER SMALL CAPITAL L WITH BELT;1 SMALL LETTER LEZH WITH RETROFLEX HOOK",
     "3 TURNED Y WITH BELT;3 REVERSED ENG;3 TURNED R WITH LONG LEG AND RETROFLEX HOOK",
     "3 T WITH HOOK AND RETROFLEX HOOK;1 LETTER RETROFLEX CLICK WITH RETROFLEX HOOK",
     "1 SMALL LETTER ESH WITH DOUBLE BAR;7 AND CURL;3 TURNED T WITH CURL",
     "1 LETTER INVERTED GLOTTAL STOP WITH CURL;2 STRETCHED C WITH CURL",
     "2 SMALL CAPITAL TURNED K;1 SMALL LETTER L WITH FISHHOOK;3 DEZH DIGRAPH WITH PALATAL HOOK",
     "3 L WITH BELT AND PALATAL HOOK;3 ENG WITH PALATAL HOOK;3 TURNED R WITH PALATAL HOOK",
     "3 R WITH FISHHOOK AND PALATAL HOOK;3 TESH DIGRAPH WITH PALATAL HOOK",
     "3 EZH WITH PALATAL HOOK;3 DEZH DIGRAPH WITH RETROFLEX HOOK",
     "3 I WITH STROKE AND RETROFLEX HOOK;3 O WITH RETROFLEX HOOK",
     "3 TESH DIGRAPH WITH RETROFLEX HOOK;3 C WITH RETROFLEX HOOK;3 S WITH CURL"]),
   (122880, ["COMBINING GLAGOLITIC LETTER AZU;3 BUKY;3 VEDE;3 GLAGOLI;3 DOBRO;3 YESTU;3 ZHIVETE"]),
   (122888,
    ["COMBINING GLAGOLITIC LETTER ZEMLJA;3 IZHE;3 INITIAL IZHE;3 I;3 DJERVI;3 KAKO;3 LJUDIJE",
     "3 MYSLITE;3 NASHI;3 ONU;3 POKOJI;3 RITSI;3 SLOVO;3 TVRIDO;3 UKU;3 FRITU;3 HERU"]),
   (122907, ["COMBINING GLAGOLITIC LETTER SHTA;3 TSI;3 CHRIVI;3 SHA;3 YERU;3 YERI;3 YATI"]),
   (122915, ["COMBINING GLAGOLITIC LETTER YU;3 SMALL YUS"]),
   (122918,
    ["COMBINING GLAGOLITIC LETTER YO;3 IOTATED SMALL YUS;3 BIG YUS;3 IOTATED BIG YUS;3 FITA"]),
   (123136,
    ["NYIAKENG PUACHUE HMONG LETTER MA;4 TSA;4 NTA;4 TA;4 HA;4 NA;4 XA;4 NKA;4 CA;4 LA;4 SA",
     "4 ZA;4 NCA;4 NTSA;4 KA;4 DA;4 NYA;4 NRA;4 VA;4 NTXA;4 TXA;4 FA;4 RA;4 QA;4 YA;4 NQA;4 PA",
     "4 XYA;4 NPA;4 DLA;4 NPLA;4 HAH;4 MLA;4 PLA;4 GA;4 RRA;4 A;4 AA;4 I;4 U;4 O;4 OO;4 E;4 EE",
     "4 W"]),
   (123184,
    ["NYIAKENG PUACHUE HMONG TONE-B;3 TONE-M;3 TONE-J;3 TONE-V;3 TONE-S;3 TONE-G;3 TONE-D",
     "3 SIGN FOR PERSON;5 THING;5 LOCATION;5 ANIMAL;5 INVERTEBRATE;4 XW XW",
     "3 SYLLABLE LENGTHENER"]),
   (123200,
    ["NYIAKENG PUACHUE HMONG DIGIT ZERO;4 ONE;4 TWO;4 THREE;4 FOUR;4 FIVE;4 SIX;4 SEVEN",
     "4 EIGHT;4 NINE"]),
   (123214, ["NYIAKENG PUACHUE HMONG LOGOGRAM NYAJ;3 CIRCLED CA"]),
   (123536,
    ["TOTO LETTER PA;2 BA;2 TA;2 DA;2 KA;2 GA;2 MA;2 NA;2 NGA;2 SA;2 CHA;2 YA;2 WA;2 JA;2 HA",
     "2 RA;2 LA;2 I;2 BREATHY I;2 IU;2 BREATHY IU;2 U;2 E;2 BREATHY E;2 EO;2 BREATHY EO;2 O",
     "2 AE;2 BREATHY AE;2 A;1 SIGN RISING TONE"]),
   (123584,
    ["WANCHO LETTER AA;2 A;2 BA;2 CA;2 DA;2 GA;2 YA;2 PHA;2 LA;2 NA;2 PA;2 TA;2 THA;2 FA;2 SA",
     "2 SHA;2 JA;2 ZA;2 WA;2 VA;2 KA;2 O;2 AU;2 RA;2 MA;2 KHA;2 HA;2 E;2 I;2 NGA;2 U;2 LLHA",
     "2 TSA;2 TRA;2 ONG;2 AANG;2 ANG;2 ING;2 ON;2 EN;2 AAN;2 NYA;2 UEN;2 YIH;1 TONE TUP",
     "2 TUPNI;2 KOI;2 KOINI;1 DIGIT ZERO;2 ONE;2 TWO;2 THREE;2 FOUR;2 FIVE;2 SIX;2 SEVEN",
     "2 EIGHT;2 NINE"]),
   (123647, ["WANCHO NGUN SIGN"]),
   (124896, ["ETHIOPIC SYLLABLE HHYA;2 HHYU;2 HHYI;2 HHYAA;2 HHYEE;2 HHYE;2 HHYO"]),
   (124904, ["ETHIOPIC SYLLABLE GURAGE HHWA;2 HHWI;2 HHWEE;2 HHWE"]),
   (124909, ["ETHIOPIC SYLLABLE GURAGE MWI;3 MWEE"]),
   (124912,
    ["ETHIOPIC SYLLABLE GURAGE QWI;3 QWEE;3 QWE;3 BWI;3 BWEE;3 KWI;3 KWEE;3 KWE;3 GWI;3 GWEE",
     "3 GWE;3 FWI;3 FWEE;3 PWI;3 PWEE"]),
   (124928,
    ["MENDE KIKAKUI SYLLABLE M001 KI;3 M002 KA;3 M003 KU;3 M065 KEE;3 M095 KE;3 M076 KOO",
     "3 M048 KO;3 M179 KUA;3 M004 WI;3 M005 WA;3 M006 WU;3 M126 WEE;3 M118 WE;3 M114 WOO",
     "3 M045 WO;3 M194 WUI;3 M143 WEI;3 M061 WVI;3 M049 WVA;3 M139 WVE;3 M007 MIN;3 M008 MAN",
     "3 M009 MUN;3 M059 MEN;3 M094 MON;3 M154 MUAN;3 M189 MUEN;3 M010 BI;3 M011 BA;3 M012 BU",
     "3 M150 BEE;3 M097 BE;3 M103 BOO;3 M138 BO;3 M013 I;3 M014 A;3 M015 U;3 M163 EE;3 M100 E",
     "3 M165 OO;3 M147 O;3 M137 EI;3 M131 IN;3 M135 IN;3 M195 AN;3 M178 EN;3 M019 SI;3 M020 SA",
     "3 M021 SU;3 M162 SEE;3 M116 SE;3 M136 SOO;3 M079 SO;3 M196 SIA;3 M025 LI;3 M026 LA",
     "3 M027 LU;3 M084 LEE;3 M073 LE;3 M054 LOO;3 M153 LO;3 M110 LONG LE;3 M016 DI;3 M017 DA",
     "3 M018 DU;3 M089 DEE;3 M180 DOO;3 M181 DO;3 M022 TI;3 M023 TA;3 M024 TU;3 M091 TEE",
     "3 M055 TE;3 M104 TOO;3 M069 TO;3 M028 JI;3 M029 JA;3 M030 JU;3 M157 JEE;3 M113 JE",
     "3 M160 JOO;3 M063 JO;3 M175 LONG JO;3 M031 YI;3 M032 YA;3 M033 YU;3 M109 YEE;3 M080 YE",
     "3 M141 YOO;3 M121 YO;3 M034 FI;3 M035 FA;3 M036 FU;3 M078 FEE;3 M075 FE;3 M133 FOO",
     "3 M088 FO;3 M197 FUA;3 M101 FAN;3 M037 NIN;3 M038 NAN;3 M039 NUN;3 M117 NEN;3 M169 NON",
     "3 M176 HI;3 M041 HA;3 M186 HU;3 M040 HEE;3 M096 HE;3 M042 HOO;3 M140 HO;3 M083 HEEI",
     "3 M128 HOOU;3 M053 HIN;3 M130 HAN;3 M087 HUN;3 M052 HEN;3 M193 HON;3 M046 HUAN",
     "3 M090 NGGI;3 M043 NGGA;3 M082 NGGU;3 M115 NGGEE;3 M146 NGGE;3 M156 NGGOO;3 M120 NGGO",
     "3 M159 NGGAA;3 M127 NGGUA;3 M086 LONG NGGE;3 M106 LONG NGGOO;3 M183 LONG NGGO;3 M155 GI",
     "3 M111 GA;3 M168 GU;3 M190 GEE;3 M166 GUEI;3 M167 GUAN;3 M184 NGEN;3 M057 NGON",
     "3 M177 NGUAN;3 M068 PI;3 M099 PA;3 M050 PU;3 M081 PEE;3 M051 PE;3 M102 POO;3 M066 PO",
     "3 M145 MBI;3 M062 MBA;3 M122 MBU;3 M047 MBEE;3 M188 MBEE;3 M072 MBE;3 M172 MBOO",
     "3 M174 MBO;3 M187 MBUU;3 M161 LONG MBE;3 M105 LONG MBOO;3 M142 LONG MBO;3 M132 KPI",
     "3 M092 KPA;3 M074 KPU;3 M044 KPEE;3 M108 KPE;3 M112 KPOO;3 M158 KPO;3 M124 GBI",
     "3 M056 GBA;3 M148 GBU;3 M093 GBEE;3 M107 GBE;3 M071 GBOO;3 M070 GBO;3 M171 RA;3 M123 NDI",
     "3 M129 NDA;3 M125 NDU;3 M191 NDEE;3 M119 NDE;3 M067 NDOO;3 M064 NDO;3 M152 NJA",
     "3 M192 NJU;3 M149 NJEE;3 M134 NJOO;3 M182 VI;3 M185 VA;3 M151 VU;3 M173 VEE;3 M085 VE",
     "3 M144 VOO;3 M077 VO;3 M164 NYIN;3 M058 NYAN;3 M170 NYUN;3 M098 NYEN;3 M060 NYON"]),
   (125127,
    ["MENDE KIKAKUI DIGIT ONE;3 TWO;3 THREE;3 FOUR;3 FIVE;3 SIX;3 SEVEN;3 EIGHT;3 NINE",
     "2 COMBINING NUMBER TEENS;4 TENS;4 HUNDREDS;4 THOUSANDS;4 TEN THOUSANDS",
     "4 HUNDRED THOUSANDS;4 MILLIONS"]),
   (125184,
    ["ADLAM CAPITAL LETTER ALIF;3 DAALI;3 LAAM;3 MIIM;3 BA;3 SINNYIIYHE;3 PE;3 BHE;3 RA;3 E",
     "3 FA;3 I;3 O;3 DHA;3 YHE;3 WAW;3 NUN;3 KAF;3 YA;3 U;3 JIIM;3 CHI;3 HA;3 QAAF;3 GA;3 NYA",
     "3 TU;3 NHA;3 VA;3 KHA;3 GBE;3 ZAL;3 KPO;3 SHA;1 SMALL LETTER ALIF;3 DAALI;3 LAAM;3 MIIM",
     "3 BA;3 SINNYIIYHE;3 PE;3 BHE;3 RA;3 E;3 FA;3 I;3 O;3 DHA;3 YHE;3 WAW;3 NUN;3 KAF;3 YA",
     "3 U;3 JIIM;3 CHI;3 HA;3 QAAF;3 GA;3 NYA;3 TU;3 NHA;3 VA;3 KHA;3 GBE;3 ZAL;3 KPO;3 SHA",
     "1 ALIF LENGTHENER;1 VOWEL LENGTHENER;1 GEMINATION MARK;1 HAMZA;1 CONSONANT MODIFIER",
     "1 GEMINATE CONSONANT MODIFIER;1 NUKTA;1 NASALIZATION MARK"]),
   (125264, ["ADLAM DIGIT ZERO;2 ONE;2 TWO;2 THREE;2 FOUR;2 FIVE;2 SIX;2 SEVEN;2 EIGHT;2 NINE"]),
   (125278, ["ADLAM INITIAL EXCLAMATION MARK;2 QUESTION MARK"]),
   (126065,
    ["INDIC SIYAQ NUMBER ONE;3 TWO;3 THREE;3 FOUR;3 FIVE;3 SIX;3 SEVEN;3 EIGHT;3 NINE;3 TEN",
     "3 TWENTY;3 THIRTY;3 FORTY;3 FIFTY;3 SIXTY;3 SEVENTY;3 EIGHTY;3 NINETY;3 ONE HUNDRED",
     "3 TWO HUNDRED;3 THREE HUNDRED;3 FOUR HUNDRED;3 FIVE HUNDRED;3 SIX HUNDRED",
     "3 SEVEN HUNDRED;3 EIGHT HUNDRED;3 NINE HUNDRED;3 ONE THOUSAND;3 TWO THOUSAND",
     "3 THREE THOUSAND;3 FOUR THOUSAND;3 FIVE THOUSAND;3 SIX THOUSAND;3 SEVEN THOUSAND",
     "3 EIGHT THOUSAND;3 NINE THOUSAND;3 TEN THOUSAND;3 TWENTY THOUSAND;3 THIRTY THOUSAND",
     "3 FORTY THOUSAND;3 FIFTY THOUSAND;3 SIXTY THOUSAND;3 SEVENTY THOUSAND;3 EIGHTY THOUSAND",
     "3 NINETY THOUSAND;3 LAKH;3 LAKHAN;2 LAKH MARK;2 NUMBER KAROR;3 KARORAN;3 PREFIXED ONE",
     "4 TWO;4 THREE;4 FOUR;4 FIVE;4 SIX;4 SEVEN;4 EIGHT;4 NINE;2 PLACEHOLDER",
     "2 FRACTION ONE QUARTER;4 HALF;3 THREE QUARTERS;2 RUPEE MARK;2 NUMBER ALTERNATE ONE;4 TWO",
     "4 TEN THOUSAND;2 ALTERNATE LAKH MARK"]),
   (126209,
    ["OTTOMAN SIYAQ NUMBER ONE;3 TWO;3 THREE;3 FOUR;3 FIVE;3 SIX;3 SEVEN;3 EIGHT;3 NINE;3 TEN",
     "3 TWENTY;3 THIRTY;3 FORTY;3 FIFTY;3 SIXTY;3 SEVENTY;3 EIGHTY;3 NINETY;3 ONE HUNDRED",
     "3 TWO HUNDRED;3 THREE HUNDRED;3 FOUR HUNDRED;3 FIVE HUNDRED;3 SIX HUNDRED",
     "3 SEVEN HUNDRED;3 EIGHT HUNDRED;3 NINE HUNDRED;3 ONE THOUSAND;3 TWO THOUSAND",
     "3 THREE THOUSAND;3 FOUR THOUSAND;3 FIVE THOUSAND;3 SIX THOUSAND;3 SEVEN THOUSAND",
     "3 EIGHT THOUSAND;3 NINE THOUSAND;3 TEN THOUSAND;3 TWENTY THOUSAND;3 THIRTY THOUSAND",
     "3 FORTY THOUSAND;3 FIFTY THOUSAND;3 SIXTY THOUSAND;3 SEVENTY THOUSAND;3 EIGHTY THOUSAND",
     "3 NINETY THOUSAND;2 MARRATAN;2 ALTERNATE NUMBER TWO;4 THREE;4 FOUR;4 FIVE;4 SIX;4 SEVEN",
     "4 EIGHT;4 NINE;4 TEN;4 FOUR HUNDRED;4 SIX HUNDRED;4 TWO THOUSAND;4 TEN THOUSAND",
     "2 FRACTION ONE HALF;4 SIXTH"]),
   (126464, ["ARABIC MATHEMATICAL ALEF;2 BEH;2 JEEM;2 DAL"]),
   (126469,
    ["ARABIC MATHEMATICAL WAW;2 ZAIN;2 HAH;2 TAH;2 YEH;2 KAF;2 LAM;2 MEEM;2 NOON;2 SEEN;2 AIN",
     "2 FEH;2 SAD;2 QAF;2 REH;2 SHEEN;2 TEH;2 THEH;2 KHAH;2 THAL;2 DAD;2 ZAH;2 GHAIN",
     "2 DOTLESS BEH;3 NOON;3 FEH;3 QAF"]),
   (126497, ["ARABIC MATHEMATICAL INITIAL BEH;3 JEEM"]),
   (126500, ["ARABIC MATHEMATICAL INITIAL HEH"]),
   (126503, ["ARABIC MATHEMATICAL INITIAL HAH"]),
   (126505,
    ["ARABIC MATHEMATICAL INITIAL YEH;3 KAF;3 LAM;3 MEEM;3 NOON;3 SEEN;3 AIN;3 FEH;3 SAD;3 QAF"]),
   (126516, ["ARABIC MATHEMATICAL INITIAL SHEEN;3 TEH;3 THEH;3 KHAH"]),
   (126521, ["ARABIC MATHEMATICAL INITIAL DAD"]),
   (126523, ["ARABIC MATHEMATICAL INITIAL GHAIN"]),
   (126530, ["ARABIC MATHEMATICAL TAILED JEEM"]),
   (126535, ["ARABIC MATHEMATICAL TAILED HAH"]),
   (126537, ["ARABIC MATHEMATICAL TAILED YEH"]),
   (126539, ["ARABIC MATHEMATICAL TAILED LAM"]),
   (126541, ["ARABIC MATHEMATICAL TAILED NOON;3 SEEN;3 AIN"]),
   (126545, ["ARABIC MATHEMATICAL TAILED SAD;3 QAF"]),
   (126548, ["ARABIC MATHEMATICAL TAILED SHEEN"]),
   (126551, ["ARABIC MATHEMATICAL TAILED KHAH"]),
   (126553, ["ARABIC MATHEMATICAL TAILED DAD"]),
   (126555, ["ARABIC MATHEMATICAL TAILED GHAIN"]),
   (126557, ["ARABIC MATHEMATICAL TAILED DOTLESS NOON"]),
   (126559, ["ARABIC MATHEMATICAL TAILED DOTLESS QAF"]),
   (126561, ["ARABIC MATHEMATICAL STRETCHED BEH;3 JEEM"]),
   (126564, ["ARABIC MATHEMATICAL STRETCHED HEH"]),
   (126567, ["ARABIC MATHEMATICAL STRETCHED HAH;3 TAH;3 YEH;3 KAF"]),
   (126572, ["ARABIC MATHEMATICAL STRETCHED MEEM;3 NOON;3 SEEN;3 AIN;3 FEH;3 SAD;3 QAF"]),
   (126580, ["ARABIC MATHEMATICAL STRETCHED SHEEN;3 TEH;3 THEH;3 KHAH"]),
   (126585, ["ARABIC MATHEMATICAL STRETCHED DAD;3 ZAH;3 GHAIN;3 DOTLESS BEH"]),
   (126590, ["ARABIC MATHEMATICAL STRETCHED DOTLESS FEH"]),
   (126592,
    ["ARABIC MATHEMATICAL LOOPED ALEF;3 BEH;3 JEEM;3 DAL;3 HEH;3 WAW;3 ZAIN;3 HAH;3 TAH;3 YEH"]),
   (126603,
    ["ARABIC MATHEMATICAL LOOPED LAM;3 MEEM;3 NOON;3 SEEN;3 AIN;3 FEH;3 SAD;3 QAF;3 REH",
     "3 SHEEN;3 TEH;3 THEH;3 KHAH;3 THAL;3 DAD;3 ZAH;3 GHAIN"]),
   (126625, ["ARABIC MATHEMATICAL DOUBLE-STRUCK BEH;3 JEEM;3 DAL"]),
   (126629, ["ARABIC MATHEMATICAL DOUBLE-STRUCK WAW;3 ZAIN;3 HAH;3 TAH;3 YEH"]),
   (126635,
    ["ARABIC MATHEMATICAL DOUBLE-STRUCK LAM;3 MEEM;3 NOON;3 SEEN;3 AIN;3 FEH;3 SAD;3 QAF;3 REH",
     "3 SHEEN;3 TEH;3 THEH;3 KHAH;3 THAL;3 DAD;3 ZAH;3 GHAIN"]),
   (126704, ["ARABIC MATHEMATICAL OPERATOR MEEM WITH HAH WITH TATWEEL;3 HAH WITH DAL"]),
   (126976,
    ["MAHJONG TILE EAST WIND;2 SOUTH WIND;2 WEST WIND;2 NORTH WIND;2 RED DRAGON;2 GREEN DRAGON",
     "2 WHITE DRAGON;2 ONE OF CHARACTERS;2 TWO OF CHARACTERS;2 THREE OF CHARACTERS",
     "2 FOUR OF CHARACTERS;2 FIVE OF CHARACTERS;2 SIX OF CHARACTERS;2 SEVEN OF CHARACTERS",
     "2 EIGHT OF CHARACTERS;2 NINE OF CHARACTERS;2 ONE OF BAMBOOS;2 TWO OF BAMBOOS",
     "2 THREE OF BAMBOOS;2 FOUR OF BAMBOOS;2 FIVE OF BAMBOOS;2 SIX OF BAMBOOS",
     "2 SEVEN OF BAMBOOS;2 EIGHT OF BAMBOOS;2 NINE OF BAMBOOS;2 ONE OF CIRCLES",
     "2 TWO OF CIRCLES;2 THREE OF CIRCLES;2 FOUR OF CIRCLES;2 FIVE OF CIRCLES;2 SIX OF CIRCLES",
     "2 SEVEN OF CIRCLES;2 EIGHT OF CIRCLES;2 NINE OF CIRCLES;2 PLUM;2 ORCHID;2 BAMBOO",
     "2 CHRYSANTHEMUM;2 SPRING;2 SUMMER;2 AUTUMN;2 WINTER;2 JOKER;2 BACK"]),
   (127024,
    ["DOMINO TILE HORIZONTAL BACK;2 HORIZONTAL-00-00;2 HORIZONTAL-00-01;2 HORIZONTAL-00-02",
     "2 HORIZONTAL-00-03;2 HORIZONTAL-00-04;2 HORIZONTAL-00-05;2 HORIZONTAL-00-06",
     "2 HORIZONTAL-01-00;2 HORIZONTAL-01-01;2 HORIZONTAL-01-02;2 HORIZONTAL-01-03",
     "2 HORIZONTAL-01-04;2 HORIZONTAL-01-05;2 HORIZONTAL-01-06;2 HORIZONTAL-02-00",
     "2 HORIZONTAL-02-01;2 HORIZONTAL-02-02;2 HORIZONTAL-02-03;2 HORIZONTAL-02-04",
     "2 HORIZONTAL-02-05;2 HORIZONTAL-02-06;2 HORIZONTAL-03-00;2 HORIZONTAL-03-01",
     "2 HORIZONTAL-03-02;2 HORIZONTAL-03-03;2 HORIZONTAL-03-04;2 HORIZONTAL-03-05",
     "2 HORIZONTAL-03-06;2 HORIZONTAL-04-00;2 HORIZONTAL-04-01;2 HORIZONTAL-04-02",
     "2 HORIZONTAL-04-03;2 HORIZONTAL-04-04;2 HORIZONTAL-04-05;2 HORIZONTAL-04-06",
     "2 HORIZONTAL-05-00;2 HORIZONTAL-05-01;2 HORIZONTAL-05-02;2 HORIZONTAL-05-03",
     "2 HORIZONTAL-05-04;2 HORIZONTAL-05-05;2 HORIZONTAL-05-06;2 HORIZONTAL-06-00",
     "2 HORIZONTAL-06-01;2 HORIZONTAL-06-02;2 HORIZONTAL-06-03;2 HORIZONTAL-06-04",
     "2 HORIZONTAL-06-05;2 HORIZONTAL-06-06;2 VERTICAL BACK;2 VERTICAL-00-00;2 VERTICAL-00-01",
     "2 VERTICAL-00-02;2 VERTICAL-00-03;2 VERTICAL-00-04;2 VERTICAL-00-05;2 VERTICAL-00-06",
     "2 VERTICAL-01-00;2 VERTICAL-01-01;2 VERTICAL-01-02;2 VERTICAL-01-03;2 VERTICAL-01-04",
     "2 VERTICAL-01-05;2 VERTICAL-01-06;2 VERTICAL-02-00;2 VERTICAL-02-01;2 VERTICAL-02-02",
     "2 VERTICAL-02-03;2 VERTICAL-02-04;2 VERTICAL-02-05;2 VERTICAL-02-06;2 VERTICAL-03-00",
     "2 VERTICAL-03-01;2 VERTICAL-03-02;2 VERTICAL-03-03;2 VERTICAL-03-04;2 VERTICAL-03-05",
     "2 VERTICAL-03-06;2 VERTICAL-04-00;2 VERTICAL-04-01;2 VERTICAL-04-02;2 VERTICAL-04-03",
     "2 VERTICAL-04-04;2 VERTICAL-04-05;2 VERTICAL-04-06;2 VERTICAL-05-00;2 VERTICAL-05-01",
     "2 VERTICAL-05-02;2 VERTICAL-05-03;2 VERTICAL-05-04;2 VERTICAL-05-05;2 VERTICAL-05-06",
     "2 VERTICAL-06-00;2 VERTICAL-06-01;2 VERTICAL-06-02;2 VERTICAL-06-03;2 VERTICAL-06-04",
     "2 VERTICAL-06-05;2 VERTICAL-06-06"]),
   (127136,
    ["PLAYING CARD BACK;2 ACE OF SPADES;2 TWO OF SPADES;2 THREE OF SPADES;2 FOUR OF SPADES",
     "2 FIVE OF SPADES;2 SIX OF SPADES;2 SEVEN OF SPADES;2 EIGHT OF SPADES;2 NINE OF SPADES",
     "2 TEN OF SPADES;2 JACK OF SPADES;2 KNIGHT OF SPADES;2 QUEEN OF SPADES;2 KING OF SPADES"]),
   (127153,
    ["PLAYING CARD ACE OF HEARTS;2 TWO OF HEARTS;2 THREE OF HEARTS;2 FOUR OF HEARTS",
     "2 FIVE OF HEARTS;2 SIX OF HEARTS;2 SEVEN OF HEARTS;2 EIGHT OF HEARTS;2 NINE OF HEARTS",
     "2 TEN OF HEARTS;2 JACK OF HEARTS;2 KNIGHT OF HEARTS;2 QUEEN OF HEARTS;2 KING OF HEARTS",
     "2 RED JOKER"]),
   (127169,
    ["PLAYING CARD ACE OF DIAMONDS;2 TWO OF DIAMONDS;2 THREE OF DIAMONDS;2 FOUR OF DIAMONDS",
     "2 FIVE OF DIAMONDS;2 SIX OF DIAMONDS;2 SEVEN OF DIAMONDS;2 EIGHT OF DIAMONDS",
     "2 NINE OF DIAMONDS;2 TEN OF DIAMONDS;2 JACK OF DIAMONDS;2 KNIGHT OF DIAMONDS",
     "2 QUEEN OF DIAMONDS;2 KING OF DIAMONDS;2 BLACK JOKER"]),
   (127185,
    ["PLAYING CARD ACE OF CLUBS;2 TWO OF CLUBS;2 THREE OF CLUBS;2 FOUR OF CLUBS",
     "2 FIVE OF CLUBS;2 SIX OF CLUBS;2 SEVEN OF CLUBS;2 EIGHT OF CLUBS;2 NINE OF CLUBS",
     "2 TEN OF CLUBS;2 JACK OF CLUBS;2 KNIGHT OF CLUBS;2 QUEEN OF CLUBS;2 KING OF CLUBS",
     "2 WHITE JOKER;2 FOOL;2 TRUMP-1;2 TRUMP-2;2 TRUMP-3;2 TRUMP-4;2 TRUMP-5;2 TRUMP-6",
     "2 TRUMP-7;2 TRUMP-8;2 TRUMP-9;2 TRUMP-10;2 TRUMP-11;2 TRUMP-12;2 TRUMP-13;2 TRUMP-14",
     "2 TRUMP-15;2 TRUMP-16;2 TRUMP-17;2 TRUMP-18;2 TRUMP-19;2 TRUMP-20;2 TRUMP-21"]),
   (127232,
    ["DIGIT ZERO FULL STOP;2 COMMA;1 ONE COMMA;1 TWO COMMA;1 THREE COMMA;1 FOUR COMMA",
     "1 FIVE COMMA;1 SIX COMMA;1 SEVEN COMMA;1 EIGHT COMMA;1 NINE COMMA",
     "DINGBAT CIRCLED SANS-SERIF DIGIT ZERO;1 NEGATIVE CIRCLED SANS-SERIF DIGIT ZERO",
     "CIRCLED ZERO WITH SLASH;1 ANTICLOCKWISE ARROW;1 DOLLAR SIGN WITH OVERLAID BACKSLASH",
     "PARENTHESIZED LATIN CAPITAL LETTER A;4 B;4 C;4 D;4 E;4 F;4 G;4 H;4 I;4 J;4 K;4 L;4 M;4 N",
     "4 O;4 P;4 Q;4 R;4 S;4 T;4 U;4 V;4 W;4 X;4 Y;4 Z",
     "TORTOISE SHELL BRACKETED LATIN CAPITAL LETTER S;CIRCLED ITALIC LATIN CAPITAL LETTER C",
     "5 R;1 CD;1 WZ;COPYLEFT SYMBOL;SQUARED LATIN CAPITAL LETTER A;4 B;4 C;4 D;4 E;4 F;4 G;4 H",
     "4 I;4 J;4 K;4 L;4 M;4 N;4 O;4 P;4 Q;4 R;4 S;4 T;4 U;4 V;4 W;4 X;4 Y;4 Z;1 HV;1 MV;1 SD",
     "1 SS;1 PPV;1 WC;NEGATIVE CIRCLED LATIN CAPITAL LETTER A;5 B;5 C;5 D;5 E;5 F;5 G;5 H;5 I",
     "5 J;5 K;5 L;5 M;5 N;5 O;5 P;5 Q;5 R;5 S;5 T;5 U;5 V;5 W;5 X;5 Y;5 Z;RAISED MC SIGN",
     "1 MD SIGN;1 MR SIGN;CIRCLED CC;1 C WITH OVERLAID BACKSLASH;1 HUMAN FIGURE",
     "NEGATIVE SQUARED LATIN CAPITAL LETTER A;5 B;5 C;5 D;5 E;5 F;5 G;5 H;5 I;5 J;5 K;5 L;5 M",
     "5 N;5 O;5 P;5 Q;5 R;5 S;5 T;5 U;5 V;5 W;5 X;5 Y;5 Z",
     "CROSSED NEGATIVE SQUARED LATIN CAPITAL LETTER P;NEGATIVE SQUARED IC;2 PA;2 SA;2 AB;2 WC",
     "SQUARE DJ;SQUARED CL;1 COOL;1 FREE;1 ID;1 NEW;1 NG;1 OK;1 SOS;1 UP WITH EXCLAMATION MARK",
     "1 VS;1 THREE D;1 SECOND SCREEN;1 TWO K;1 FOUR K;1 EIGHT K;1 FIVE POINT ONE",
     "1 SEVEN POINT ONE;1 TWENTY-TWO POINT TWO;1 SIXTY P;1 ONE HUNDRED TWENTY P",
     "1 LATIN SMALL LETTER D;1 HC;1 HDR;1 HI-RES;1 LOSSLESS;1 SHV;1 UHD;1 VOD;MASK WORK SYMBOL"]),
   (127462,
    ["REGIONAL INDICATOR SYMBOL LETTER A;4 B;4 C;4 D;4 E;4 F;4 G;4 H;4 I;4 J;4 K;4 L;4 M;4 N",
     "4 O;4 P;4 Q;4 R;4 S;4 T;4 U;4 V;4 W;4 X;4 Y;4 Z;SQUARE HIRAGANA HOKA",
     "SQUARED KATAKANA KOKO;2 SA"]),
   (127504,
    ["SQUARED CJK UNIFIED IDEOGRAPH-624B;3 IDEOGRAPH-5B57;3 IDEOGRAPH-53CC;1 KATAKANA DE",
     "1 CJK UNIFIED IDEOGRAPH-4E8C;3 IDEOGRAPH-591A;3 IDEOGRAPH-89E3;3 IDEOGRAPH-5929",
     "3 IDEOGRAPH-4EA4;3 IDEOGRAPH-6620;3 IDEOGRAPH-7121;3 IDEOGRAPH-6599;3 IDEOGRAPH-524D",
     "3 IDEOGRAPH-5F8C;3 IDEOGRAPH-518D;3 IDEOGRAPH-65B0;3 IDEOGRAPH-521D;3 IDEOGRAPH-7D42",
     "3 IDEOGRAPH-751F;3 IDEOGRAPH-8CA9;3 IDEOGRAPH-58F0;3 IDEOGRAPH-5439;3 IDEOGRAPH-6F14",
     "3 IDEOGRAPH-6295;3 IDEOGRAPH-6355;3 IDEOGRAPH-4E00;3 IDEOGRAPH-4E09;3 IDEOGRAPH-904A",
     "3 IDEOGRAPH-5DE6;3 IDEOGRAPH-4E2D;3 IDEOGRAPH-53F3;3 IDEOGRAPH-6307;3 IDEOGRAPH-8D70",
     "3 IDEOGRAPH-6253;3 IDEOGRAPH-7981;3 IDEOGRAPH-7A7A;3 IDEOGRAPH-5408;3 IDEOGRAPH-6E80",
     "3 IDEOGRAPH-6709;3 IDEOGRAPH-6708;3 IDEOGRAPH-7533;3 IDEOGRAPH-5272;3 IDEOGRAPH-55B6",
     "3 IDEOGRAPH-914D"]),
   (127552,
    ["TORTOISE SHELL BRACKETED CJK UNIFIED IDEOGRAPH-672C;5 IDEOGRAPH-4E09;5 IDEOGRAPH-4E8C",
     "5 IDEOGRAPH-5B89;5 IDEOGRAPH-70B9;5 IDEOGRAPH-6253;5 IDEOGRAPH-76D7;5 IDEOGRAPH-52DD",
     "5 IDEOGRAPH-6557"]),
   (127568, ["CIRCLED IDEOGRAPH ADVANTAGE;2 ACCEPT"]),
   (127584, ["ROUNDED SYMBOL FOR FU;3 LU;3 SHOU;3 XI;3 SHUANGXI;3 CAI"]),
   (127744,
    ["CYCLONE;FOGGY;CLOSED UMBRELLA;NIGHT WITH STARS;SUNRISE OVER MOUNTAINS;SUNRISE",
     "CITYSCAPE AT DUSK;SUNSET OVER BUILDINGS;RAINBOW;BRIDGE AT NIGHT;WATER WAVE;VOLCANO",
     "MILKY WAY;EARTH GLOBE EUROPE-AFRICA;2 AMERICAS;2 ASIA-AUSTRALIA;GLOBE WITH MERIDIANS",
     "NEW MOON SYMBOL;WAXING CRESCENT MOON SYMBOL;FIRST QUARTER MOON SYMBOL",
     "WAXING GIBBOUS MOON SYMBOL;FULL MOON SYMBOL;WANING GIBBOUS MOON SYMBOL",
     "LAST QUARTER MOON SYMBOL;WANING CRESCENT MOON SYMBOL;CRESCENT MOON;NEW MOON WITH FACE",
     "FIRST QUARTER MOON WITH FACE;LAST QUARTER MOON WITH FACE;FULL MOON WITH FACE",
     "SUN WITH FACE;GLOWING STAR;SHOOTING STAR;THERMOMETER;BLACK DROPLET;WHITE SUN",
     "2 WITH SMALL CLOUD;2 BEHIND CLOUD;4 WITH RAIN;CLOUD WITH RAIN;2 SNOW;2 LIGHTNING",
     "2 TORNADO;FOG;WIND BLOWING FACE;HOT DOG;TACO;BURRITO;CHESTNUT;SEEDLING;EVERGREEN TREE",
     "DECIDUOUS TREE;PALM TREE;CACTUS;HOT PEPPER;TULIP;CHERRY BLOSSOM;ROSE;HIBISCUS;SUNFLOWER",
     "BLOSSOM;EAR OF MAIZE;2 RICE;HERB;FOUR LEAF CLOVER;MAPLE LEAF;FALLEN LEAF",
     "LEAF FLUTTERING IN WIND;MUSHROOM;TOMATO;AUBERGINE;GRAPES;MELON;WATERMELON;TANGERINE",
     "LEMON;BANANA;PINEAPPLE;RED APPLE;GREEN APPLE;PEAR;PEACH;CHERRIES;STRAWBERRY;HAMBURGER",
     "SLICE OF PIZZA;MEAT ON BONE;POULTRY LEG;RICE CRACKER;1 BALL;COOKED RICE;CURRY AND RICE",
     "STEAMING BOWL;SPAGHETTI;BREAD;FRENCH FRIES;ROASTED SWEET POTATO;DANGO;ODEN;SUSHI",
     "FRIED SHRIMP;FISH CAKE WITH SWIRL DESIGN;SOFT ICE CREAM;SHAVED ICE;ICE CREAM;DOUGHNUT",
     "COOKIE;CHOCOLATE BAR;CANDY;LOLLIPOP;CUSTARD;HONEY POT;SHORTCAKE;BENTO BOX;POT OF FOOD",
     "COOKING;FORK AND KNIFE;TEACUP WITHOUT HANDLE;SAKE BOTTLE AND CUP;WINE GLASS",
     "COCKTAIL GLASS;TROPICAL DRINK;BEER MUG;CLINKING BEER MUGS;BABY BOTTLE",
     "FORK AND KNIFE WITH PLATE;BOTTLE WITH POPPING CORK;POPCORN;RIBBON;WRAPPED PRESENT",
     "BIRTHDAY CAKE;JACK-O-LANTERN;CHRISTMAS TREE;FATHER CHRISTMAS;FIREWORKS;FIREWORK SPARKLER",
     "BALLOON;PARTY POPPER;CONFETTI BALL;TANABATA TREE;CROSSED FLAGS;PINE DECORATION",
     "JAPANESE DOLLS;CARP STREAMER;WIND CHIME;MOON VIEWING CEREMONY;SCHOOL SATCHEL",
     "GRADUATION CAP;HEART WITH TIP ON THE LEFT;BOUQUET OF FLOWERS;MILITARY MEDAL",
     "REMINDER RIBBON;MUSICAL KEYBOARD WITH JACKS;STUDIO MICROPHONE;LEVEL SLIDER;CONTROL KNOBS",
     "BEAMED ASCENDING MUSICAL NOTES;1 DESCENDING MUSICAL NOTES;FILM FRAMES;ADMISSION TICKETS",
     "CAROUSEL HORSE;FERRIS WHEEL;ROLLER COASTER;FISHING POLE AND FISH;MICROPHONE;MOVIE CAMERA",
     "CINEMA;HEADPHONE;ARTIST PALETTE;TOP HAT;CIRCUS TENT;TICKET;CLAPPER BOARD;PERFORMING ARTS",
     "VIDEO GAME;DIRECT HIT;SLOT MACHINE;BILLIARDS;GAME DIE;BOWLING;FLOWER PLAYING CARDS",
     "MUSICAL NOTE;MULTIPLE MUSICAL NOTES;SAXOPHONE;GUITAR;MUSICAL KEYBOARD;TRUMPET;VIOLIN",
     "MUSICAL SCORE;RUNNING SHIRT WITH SASH;TENNIS RACQUET AND BALL;SKI AND SKI BOOT",
     "BASKETBALL AND HOOP;CHEQUERED FLAG;SNOWBOARDER;RUNNER;SURFER;SPORTS MEDAL;TROPHY",
     "HORSE RACING;AMERICAN FOOTBALL;RUGBY FOOTBALL;SWIMMER;WEIGHT LIFTER;GOLFER",
     "RACING MOTORCYCLE;1 CAR;CRICKET BAT AND BALL;VOLLEYBALL;FIELD HOCKEY STICK AND BALL",
     "ICE HOCKEY STICK AND PUCK;TABLE TENNIS PADDLE AND BALL;SNOW CAPPED MOUNTAIN;CAMPING",
     "BEACH WITH UMBRELLA;BUILDING CONSTRUCTION;HOUSE BUILDINGS;CITYSCAPE",
     "DERELICT HOUSE BUILDING;CLASSICAL BUILDING;DESERT;1 ISLAND;NATIONAL PARK;STADIUM",
     "HOUSE BUILDING;1 WITH GARDEN;OFFICE BUILDING;JAPANESE POST OFFICE;EUROPEAN POST OFFICE",
     "HOSPITAL;BANK;AUTOMATED TELLER MACHINE;HOTEL;LOVE HOTEL;CONVENIENCE STORE;SCHOOL",
     "DEPARTMENT STORE;FACTORY;IZAKAYA LANTERN;JAPANESE CASTLE;EUROPEAN CASTLE;WHITE PENNANT",
     "BLACK PENNANT;WAVING WHITE FLAG;1 BLACK FLAG;ROSETTE;BLACK ROSETTE;LABEL",
     "BADMINTON RACQUET AND SHUTTLECOCK;BOW AND ARROW;AMPHORA",
     "EMOJI MODIFIER FITZPATRICK TYPE-1-2;3 TYPE-3;3 TYPE-4;3 TYPE-5;3 TYPE-6;RAT;MOUSE;OX",
     "WATER BUFFALO;COW;TIGER;LEOPARD;RABBIT;CAT;DRAGON;CROCODILE;WHALE;SNAIL;SNAKE;HORSE;RAM",
     "GOAT;SHEEP;MONKEY;ROOSTER;CHICKEN;DOG;PIG;BOAR;ELEPHANT;OCTOPUS;SPIRAL SHELL;BUG;ANT",
     "HONEYBEE;LADY BEETLE;FISH;TROPICAL FISH;BLOWFISH;TURTLE;HATCHING CHICK;BABY CHICK",
     "FRONT-FACING BABY CHICK;BIRD;PENGUIN;KOALA;POODLE;DROMEDARY CAMEL;BACTRIAN CAMEL;DOLPHIN",
     "MOUSE FACE;COW FACE;TIGER FACE;RABBIT FACE;CAT FACE;DRAGON FACE;SPOUTING WHALE",
     "HORSE FACE;MONKEY FACE;DOG FACE;PIG FACE;FROG FACE;HAMSTER FACE;WOLF FACE;BEAR FACE",
     "PANDA FACE;PIG NOSE;PAW PRINTS;CHIPMUNK;EYES;EYE;EAR;NOSE;MOUTH;TONGUE",
     "WHITE UP POINTING BACKHAND INDEX;1 DOWN POINTING BACKHAND INDEX",
     "1 LEFT POINTING BACKHAND INDEX;1 RIGHT POINTING BACKHAND INDEX;FISTED HAND SIGN",
     "WAVING HAND SIGN;OK HAND SIGN;THUMBS UP SIGN;1 DOWN SIGN;CLAPPING HANDS SIGN",
     "OPEN HANDS SIGN;CROWN;WOMANS HAT;EYEGLASSES;NECKTIE;T-SHIRT;JEANS;DRESS;KIMONO;BIKINI",
     "WOMANS CLOTHES;PURSE;HANDBAG;POUCH;MANS SHOE;ATHLETIC SHOE;HIGH-HEELED SHOE",
     "WOMANS SANDAL;1 BOOTS;FOOTPRINTS;BUST IN SILHOUETTE;BUSTS IN SILHOUETTE;BOY;GIRL;MAN",
     "WOMAN;FAMILY;MAN AND WOMAN HOLDING HANDS;TWO MEN HOLDING HANDS;1 WOMEN HOLDING HANDS",
     "POLICE OFFICER;WOMAN WITH BUNNY EARS;BRIDE WITH VEIL;PERSON WITH BLOND HAIR",
     "MAN WITH GUA PI MAO;2 TURBAN;OLDER MAN;1 WOMAN;BABY;CONSTRUCTION WORKER;PRINCESS",
     "JAPANESE OGRE;1 GOBLIN;GHOST;BABY ANGEL;EXTRATERRESTRIAL ALIEN;ALIEN MONSTER;IMP;SKULL",
     "INFORMATION DESK PERSON;GUARDSMAN;DANCER;LIPSTICK;NAIL POLISH;FACE MASSAGE;HAIRCUT",
     "BARBER POLE;SYRINGE;PILL;KISS MARK;LOVE LETTER;RING;GEM STONE;KISS;BOUQUET",
     "COUPLE WITH HEART;WEDDING;BEATING HEART;BROKEN HEART;TWO HEARTS;SPARKLING HEART",
     "GROWING HEART;HEART WITH ARROW;BLUE HEART;GREEN HEART;YELLOW HEART;PURPLE HEART",
     "HEART WITH RIBBON;REVOLVING HEARTS;HEART DECORATION;DIAMOND SHAPE WITH A DOT INSIDE",
     "ELECTRIC LIGHT BULB;ANGER SYMBOL;BOMB;SLEEPING SYMBOL;COLLISION SYMBOL",
     "SPLASHING SWEAT SYMBOL;DROPLET;DASH SYMBOL;PILE OF POO;FLEXED BICEPS;DIZZY SYMBOL",
     "SPEECH BALLOON;THOUGHT BALLOON;WHITE FLOWER;HUNDRED POINTS SYMBOL;MONEY BAG",
     "CURRENCY EXCHANGE;HEAVY DOLLAR SIGN;CREDIT CARD;BANKNOTE WITH YEN SIGN;2 DOLLAR SIGN",
     "2 EURO SIGN;2 POUND SIGN;MONEY WITH WINGS;CHART WITH UPWARDS TREND AND YEN SIGN;SEAT",
     "PERSONAL COMPUTER;BRIEFCASE;MINIDISC;FLOPPY DISK;OPTICAL DISC;DVD;FILE FOLDER",
     "OPEN FILE FOLDER;PAGE WITH CURL;1 FACING UP;CALENDAR;TEAR-OFF CALENDAR;CARD INDEX",
     "CHART WITH UPWARDS TREND;2 DOWNWARDS TREND;BAR CHART;CLIPBOARD;PUSHPIN;ROUND PUSHPIN",
     "PAPERCLIP;STRAIGHT RULER;TRIANGULAR RULER;BOOKMARK TABS;LEDGER;NOTEBOOK",
     "1 WITH DECORATIVE COVER;CLOSED BOOK;OPEN BOOK;GREEN BOOK;BLUE BOOK;ORANGE BOOK;BOOKS",
     "NAME BADGE;SCROLL;MEMO;TELEPHONE RECEIVER;PAGER;FAX MACHINE;SATELLITE ANTENNA",
     "PUBLIC ADDRESS LOUDSPEAKER;CHEERING MEGAPHONE;OUTBOX TRAY;INBOX TRAY;PACKAGE",
     "E-MAIL SYMBOL;INCOMING ENVELOPE;ENVELOPE WITH DOWNWARDS ARROW ABOVE",
     "CLOSED MAILBOX WITH LOWERED FLAG;3 RAISED FLAG;OPEN MAILBOX WITH RAISED FLAG",
     "3 LOWERED FLAG;POSTBOX;POSTAL HORN;NEWSPAPER;MOBILE PHONE",
     "2 WITH RIGHTWARDS ARROW AT LEFT;VIBRATION MODE;MOBILE PHONE OFF;NO MOBILE PHONES",
     "ANTENNA WITH BARS;CAMERA;1 WITH FLASH;VIDEO CAMERA;TELEVISION;RADIO;VIDEOCASSETTE",
     "FILM PROJECTOR;PORTABLE STEREO;PRAYER BEADS;TWISTED RIGHTWARDS ARROWS",
     "CLOCKWISE RIGHTWARDS AND LEFTWARDS OPEN CIRCLE ARROWS;7 WITH CIRCLED ONE OVERLAY",
     "1 DOWNWARDS AND UPWARDS OPEN CIRCLE ARROWS",
     "ANTICLOCKWISE DOWNWARDS AND UPWARDS OPEN CIRCLE ARROWS;LOW BRIGHTNESS SYMBOL",
     "HIGH BRIGHTNESS SYMBOL;SPEAKER WITH CANCELLATION STROKE;SPEAKER;1 WITH ONE SOUND WAVE",
     "2 THREE SOUND WAVES;BATTERY;ELECTRIC PLUG;LEFT-POINTING MAGNIFYING GLASS",
     "RIGHT-POINTING MAGNIFYING GLASS;LOCK WITH INK PEN;CLOSED LOCK WITH KEY;KEY;LOCK",
     "OPEN LOCK;BELL;1 WITH CANCELLATION STROKE;BOOKMARK;LINK SYMBOL;RADIO BUTTON",
     "BACK WITH LEFTWARDS ARROW ABOVE;END WITH LEFTWARDS ARROW ABOVE",
     "ON WITH EXCLAMATION MARK WITH LEFT RIGHT ARROW ABOVE;SOON WITH RIGHTWARDS ARROW ABOVE",
     "TOP WITH UPWARDS ARROW ABOVE;NO ONE UNDER EIGHTEEN SYMBOL;KEYCAP TEN",
     "INPUT SYMBOL FOR LATIN CAPITAL LETTERS;4 SMALL LETTERS;3 NUMBERS;3 SYMBOLS",
     "3 LATIN LETTERS;FIRE;ELECTRIC TORCH;WRENCH;HAMMER;NUT AND BOLT;HOCHO;PISTOL;MICROSCOPE",
     "TELESCOPE;CRYSTAL BALL;SIX POINTED STAR WITH MIDDLE DOT;JAPANESE SYMBOL FOR BEGINNER",
     "TRIDENT EMBLEM;BLACK SQUARE BUTTON;WHITE SQUARE BUTTON;LARGE RED CIRCLE;1 BLUE CIRCLE",
     "1 ORANGE DIAMOND;1 BLUE DIAMOND;SMALL ORANGE DIAMOND;1 BLUE DIAMOND",
     "UP-POINTING RED TRIANGLE;DOWN-POINTING RED TRIANGLE;UP-POINTING SMALL RED TRIANGLE",
     "DOWN-POINTING SMALL RED TRIANGLE;LOWER RIGHT SHADOWED WHITE CIRCLE",
     "UPPER RIGHT SHADOWED WHITE CIRCLE;CIRCLED CROSS POMMEE",
     "CROSS POMMEE WITH HALF-CIRCLE BELOW;1 POMMEE;NOTCHED LEFT SEMICIRCLE WITH THREE DOTS",
     "1 RIGHT SEMICIRCLE WITH THREE DOTS;SYMBOL FOR MARKS CHAPTER;WHITE LATIN CROSS",
     "HEAVY LATIN CROSS;CELTIC CROSS;OM SYMBOL;DOVE OF PEACE;KAABA;MOSQUE;SYNAGOGUE",
     "MENORAH WITH NINE BRANCHES;BOWL OF HYGIEIA;CLOCK FACE ONE OCLOCK;2 TWO OCLOCK",
     "2 THREE OCLOCK;2 FOUR OCLOCK;2 FIVE OCLOCK;2 SIX OCLOCK;2 SEVEN OCLOCK;2 EIGHT OCLOCK",
     "2 NINE OCLOCK;2 TEN OCLOCK;2 ELEVEN OCLOCK;2 TWELVE OCLOCK;2 ONE-THIRTY;2 TWO-THIRTY",
     "2 THREE-THIRTY;2 FOUR-THIRTY;2 FIVE-THIRTY;2 SIX-THIRTY;2 SEVEN-THIRTY;2 EIGHT-THIRTY",
     "2 NINE-THIRTY;2 TEN-THIRTY;2 ELEVEN-THIRTY;2 TWELVE-THIRTY;RIGHT SPEAKER",
     "2 WITH ONE SOUND WAVE;3 THREE SOUND WAVES;BULLHORN;1 WITH SOUND WAVES;RINGING BELL;BOOK",
     "CANDLE;MANTELPIECE CLOCK;BLACK SKULL AND CROSSBONES;NO PIRACY;HOLE",
     "MAN IN BUSINESS SUIT LEVITATING;SLEUTH OR SPY;DARK SUNGLASSES;SPIDER;1 WEB;JOYSTICK",
     "MAN DANCING;LEFT HAND TELEPHONE RECEIVER;TELEPHONE RECEIVER WITH PAGE",
     "RIGHT HAND TELEPHONE RECEIVER;WHITE TOUCHTONE TELEPHONE;BLACK TOUCHTONE TELEPHONE",
     "TELEPHONE ON TOP OF MODEM;CLAMSHELL MOBILE PHONE;BACK OF ENVELOPE;STAMPED ENVELOPE",
     "ENVELOPE WITH LIGHTNING;FLYING ENVELOPE;PEN OVER STAMPED ENVELOPE;LINKED PAPERCLIPS",
     "BLACK PUSHPIN;LOWER LEFT PENCIL;2 BALLPOINT PEN;2 FOUNTAIN PEN;2 PAINTBRUSH;2 CRAYON",
     "LEFT WRITING HAND;TURNED OK HAND SIGN;RAISED HAND WITH FINGERS SPLAYED",
     "REVERSED RAISED HAND WITH FINGERS SPLAYED;1 THUMBS UP SIGN;2 DOWN SIGN;1 VICTORY HAND",
     "1 HAND WITH MIDDLE FINGER EXTENDED;RAISED HAND WITH PART BETWEEN MIDDLE AND RING FINGERS",
     "WHITE DOWN POINTING LEFT HAND INDEX;SIDEWAYS WHITE LEFT POINTING INDEX",
     "2 RIGHT POINTING INDEX;1 BLACK LEFT POINTING INDEX;2 RIGHT POINTING INDEX",
     "BLACK LEFT POINTING BACKHAND INDEX;1 RIGHT POINTING BACKHAND INDEX",
     "SIDEWAYS WHITE UP POINTING INDEX;2 DOWN POINTING INDEX;1 BLACK UP POINTING INDEX",
     "2 DOWN POINTING INDEX;BLACK UP POINTING BACKHAND INDEX;1 DOWN POINTING BACKHAND INDEX",
     "1 HEART;DESKTOP COMPUTER;KEYBOARD AND MOUSE;THREE NETWORKED COMPUTERS;PRINTER",
     "POCKET CALCULATOR;BLACK HARD SHELL FLOPPY DISK;WHITE HARD SHELL FLOPPY DISK",
     "SOFT SHELL FLOPPY DISK;TAPE CARTRIDGE;WIRED KEYBOARD;ONE BUTTON MOUSE;TWO BUTTON MOUSE",
     "THREE BUTTON MOUSE;TRACKBALL;OLD PERSONAL COMPUTER;HARD DISK;SCREEN;PRINTER ICON",
     "FAX ICON;OPTICAL DISC ICON;DOCUMENT WITH TEXT;3 AND PICTURE;2 PICTURE;FRAME WITH PICTURE",
     "2 TILES;2 AN X;BLACK FOLDER;FOLDER;OPEN FOLDER;CARD INDEX DIVIDERS;1 FILE BOX",
     "FILE CABINET;EMPTY NOTE;2 PAGE;2 PAD;NOTE;1 PAGE;1 PAD;EMPTY DOCUMENT;1 PAGE;1 PAGES",
     "DOCUMENT;PAGE;PAGES;WASTEBASKET;SPIRAL NOTE PAD;1 CALENDAR PAD;DESKTOP WINDOW;MINIMIZE",
     "MAXIMIZE;OVERLAP;CLOCKWISE RIGHT AND LEFT SEMICIRCLE ARROWS;CANCELLATION X",
     "INCREASE FONT SIZE SYMBOL;DECREASE FONT SIZE SYMBOL;COMPRESSION;OLD KEY",
     "ROLLED-UP NEWSPAPER;PAGE WITH CIRCLED TEXT;STOCK CHART;DAGGER KNIFE;LIPS",
     "SPEAKING HEAD IN SILHOUETTE;THREE RAYS ABOVE;2 BELOW;2 LEFT;2 RIGHT;LEFT SPEECH BUBBLE",
     "RIGHT SPEECH BUBBLE;TWO SPEECH BUBBLES;THREE SPEECH BUBBLES;LEFT THOUGHT BUBBLE",
     "RIGHT THOUGHT BUBBLE;LEFT ANGER BUBBLE;RIGHT ANGER BUBBLE;MOOD BUBBLE",
     "LIGHTNING MOOD BUBBLE;1 MOOD;BALLOT BOX WITH BALLOT;1 SCRIPT X;1 BOX WITH SCRIPT X",
     "1 BOLD SCRIPT X;1 BOX WITH BOLD SCRIPT X;LIGHT CHECK MARK;BALLOT BOX WITH BOLD CHECK",
     "WORLD MAP;MOUNT FUJI;TOKYO TOWER;STATUE OF LIBERTY;SILHOUETTE OF JAPAN;MOYAI",
     "GRINNING FACE;2 WITH SMILING EYES;FACE WITH TEARS OF JOY;SMILING FACE WITH OPEN MOUTH",
     "5 AND SMILING EYES;6 COLD SWEAT;6 TIGHTLY-CLOSED EYES;3 HALO;3 HORNS;WINKING FACE",
     "SMILING FACE WITH SMILING EYES;FACE SAVOURING DELICIOUS FOOD;RELIEVED FACE",
     "SMILING FACE WITH HEART-SHAPED EYES;3 SUNGLASSES;SMIRKING FACE;NEUTRAL FACE",
     "EXPRESSIONLESS FACE;UNAMUSED FACE;FACE WITH COLD SWEAT;PENSIVE FACE;CONFUSED FACE",
     "CONFOUNDED FACE;KISSING FACE;FACE THROWING A KISS;KISSING FACE WITH SMILING EYES",
     "3 CLOSED EYES;FACE WITH STUCK-OUT TONGUE;4 AND WINKING EYE;5 TIGHTLY-CLOSED EYES",
     "DISAPPOINTED FACE;WORRIED FACE;ANGRY FACE;POUTING FACE;CRYING FACE;PERSEVERING FACE",
     "FACE WITH LOOK OF TRIUMPH;DISAPPOINTED BUT RELIEVED FACE;FROWNING FACE WITH OPEN MOUTH",
     "ANGUISHED FACE;FEARFUL FACE;WEARY FACE;SLEEPY FACE;TIRED FACE;GRIMACING FACE",
     "LOUDLY CRYING FACE;FACE WITH OPEN MOUTH;HUSHED FACE;FACE WITH OPEN MOUTH AND COLD SWEAT",
     "1 SCREAMING IN FEAR;ASTONISHED FACE;FLUSHED FACE;SLEEPING FACE;DIZZY FACE",
     "FACE WITHOUT MOUTH;1 WITH MEDICAL MASK;GRINNING CAT FACE WITH SMILING EYES",
     "CAT FACE WITH TEARS OF JOY;SMILING CAT FACE WITH OPEN MOUTH;4 HEART-SHAPED EYES",
     "CAT FACE WITH WRY SMILE;KISSING CAT FACE WITH CLOSED EYES;POUTING CAT FACE",
     "CRYING CAT FACE;WEARY CAT FACE;SLIGHTLY FROWNING FACE;1 SMILING FACE;UPSIDE-DOWN FACE",
     "FACE WITH ROLLING EYES;2 NO GOOD GESTURE;2 OK GESTURE;PERSON BOWING DEEPLY",
     "SEE-NO-EVIL MONKEY;HEAR-NO-EVIL MONKEY;SPEAK-NO-EVIL MONKEY",
     "HAPPY PERSON RAISING ONE HAND;PERSON RAISING BOTH HANDS IN CELEBRATION;1 FROWNING",
     "1 WITH POUTING FACE;2 FOLDED HANDS;NORTH WEST POINTING LEAF;SOUTH WEST POINTING LEAF",
     "NORTH EAST POINTING LEAF;SOUTH EAST POINTING LEAF;TURNED NORTH WEST POINTING LEAF",
     "1 SOUTH WEST POINTING LEAF;1 NORTH EAST POINTING LEAF;1 SOUTH EAST POINTING LEAF",
     "NORTH WEST POINTING VINE LEAF;SOUTH WEST POINTING VINE LEAF",
     "NORTH EAST POINTING VINE LEAF;SOUTH EAST POINTING VINE LEAF",
     "HEAVY NORTH WEST POINTING VINE LEAF;1 SOUTH WEST POINTING VINE LEAF",
     "1 NORTH EAST POINTING VINE LEAF;1 SOUTH EAST POINTING VINE LEAF;NORTH WEST POINTING BUD",
     "SOUTH WEST POINTING BUD;NORTH EAST POINTING BUD;SOUTH EAST POINTING BUD",
     "HEAVY NORTH WEST POINTING BUD;1 SOUTH WEST POINTING BUD;1 NORTH EAST POINTING BUD",
     "1 SOUTH EAST POINTING BUD;HOLLOW QUILT SQUARE ORNAMENT;4 IN BLACK SQUARE",
     "SOLID QUILT SQUARE ORNAMENT;4 IN BLACK SQUARE;LEFTWARDS ROCKET;UPWARDS ROCKET",
     "RIGHTWARDS ROCKET;DOWNWARDS ROCKET;SCRIPT LIGATURE ET ORNAMENT",
     "HEAVY SCRIPT LIGATURE ET ORNAMENT;LIGATURE OPEN ET ORNAMENT",
     "HEAVY LIGATURE OPEN ET ORNAMENT;1 AMPERSAND ORNAMENT;SWASH AMPERSAND ORNAMENT",
     "SANS-SERIF HEAVY DOUBLE TURNED COMMA QUOTATION MARK ORNAMENT",
     "3 COMMA QUOTATION MARK ORNAMENT;2 LOW DOUBLE COMMA QUOTATION MARK ORNAMENT",
     "HEAVY INTERROBANG ORNAMENT;SANS-SERIF INTERROBANG ORNAMENT",
     "HEAVY SANS-SERIF INTERROBANG ORNAMENT;VERY HEAVY SOLIDUS;2 REVERSE SOLIDUS;CHECKER BOARD",
     "REVERSE CHECKER BOARD;ROCKET;HELICOPTER;STEAM LOCOMOTIVE;RAILWAY CAR;HIGH-SPEED TRAIN",
     "2 WITH BULLET NOSE;TRAIN;METRO;LIGHT RAIL;STATION;TRAM;1 CAR;BUS;ONCOMING BUS;TROLLEYBUS",
     "BUS STOP;MINIBUS;AMBULANCE;FIRE ENGINE;POLICE CAR;ONCOMING POLICE CAR;TAXI;ONCOMING TAXI",
     "AUTOMOBILE;ONCOMING AUTOMOBILE;RECREATIONAL VEHICLE;DELIVERY TRUCK;ARTICULATED LORRY",
     "TRACTOR;MONORAIL;MOUNTAIN RAILWAY;SUSPENSION RAILWAY;MOUNTAIN CABLEWAY;AERIAL TRAMWAY",
     "SHIP;ROWBOAT;SPEEDBOAT;HORIZONTAL TRAFFIC LIGHT;VERTICAL TRAFFIC LIGHT;CONSTRUCTION SIGN",
     "POLICE CARS REVOLVING LIGHT;TRIANGULAR FLAG ON POST;DOOR;NO ENTRY SIGN;SMOKING SYMBOL",
     "NO SMOKING SYMBOL;PUT LITTER IN ITS PLACE SYMBOL;DO NOT LITTER SYMBOL",
     "POTABLE WATER SYMBOL;NON-POTABLE WATER SYMBOL;BICYCLE;NO BICYCLES;BICYCLIST",
     "MOUNTAIN BICYCLIST;PEDESTRIAN;NO PEDESTRIANS;CHILDREN CROSSING;MENS SYMBOL;WOMENS SYMBOL",
     "RESTROOM;BABY SYMBOL;TOILET;WATER CLOSET;SHOWER;BATH;BATHTUB;PASSPORT CONTROL;CUSTOMS",
     "BAGGAGE CLAIM;LEFT LUGGAGE;TRIANGLE WITH ROUNDED CORNERS;PROHIBITED SIGN",
     "CIRCLED INFORMATION SOURCE;BOYS SYMBOL;GIRLS SYMBOL;COUCH AND LAMP",
     "SLEEPING ACCOMMODATION;SHOPPING BAGS;BELLHOP BELL;BED;PLACE OF WORSHIP;OCTAGONAL SIGN",
     "SHOPPING TROLLEY;STUPA;PAGODA;HINDU TEMPLE;HUT;ELEVATOR"]),
   (128733,
    ["PLAYGROUND SLIDE;WHEEL;RING BUOY;HAMMER AND WRENCH;SHIELD;OIL DRUM;MOTORWAY",
     "RAILWAY TRACK;MOTOR BOAT;UP-POINTING MILITARY AIRPLANE;1 AIRPLANE;1 SMALL AIRPLANE",
     "SMALL AIRPLANE;NORTHEAST-POINTING AIRPLANE;AIRPLANE DEPARTURE;1 ARRIVING"]),
   (128752,
    ["SATELLITE;ONCOMING FIRE ENGINE;DIESEL LOCOMOTIVE;PASSENGER SHIP;SCOOTER;MOTOR SCOOTER",
     "CANOE;SLED;FLYING SAUCER;SKATEBOARD;AUTO RICKSHAW;PICKUP TRUCK;ROLLER SKATE"]),
   (128768,
    ["ALCHEMICAL SYMBOL FOR QUINTESSENCE;3 AIR;3 FIRE;3 EARTH;3 WATER;3 AQUAFORTIS",
     "3 AQUA REGIA;4 REGIA-2;4 VITAE;4 VITAE-2;3 VINEGAR;3 VINEGAR-2;3 VINEGAR-3;3 SULFUR",
     "3 PHILOSOPHERS SULFUR;3 BLACK SULFUR;3 MERCURY SUBLIMATE;4 SUBLIMATE-2;4 SUBLIMATE-3",
     "3 CINNABAR;3 SALT;3 NITRE;3 VITRIOL;3 VITRIOL-2;3 ROCK SALT;4 SALT-2;3 GOLD;3 SILVER",
     "3 IRON ORE;4 ORE-2;3 CROCUS OF IRON;3 REGULUS OF IRON;3 COPPER ORE;3 IRON-COPPER ORE",
     "3 SUBLIMATE OF COPPER;3 CROCUS OF COPPER;5 COPPER-2;3 COPPER ANTIMONIATE",
     "3 SALT OF COPPER ANTIMONIATE;3 SUBLIMATE OF SALT OF COPPER;3 VERDIGRIS;3 TIN ORE",
     "3 LEAD ORE;3 ANTIMONY ORE;3 SUBLIMATE OF ANTIMONY;3 SALT OF ANTIMONY",
     "3 SUBLIMATE OF SALT OF ANTIMONY;3 VINEGAR OF ANTIMONY;3 REGULUS OF ANTIMONY;5 ANTIMONY-2",
     "3 REGULUS;3 REGULUS-2;3 REGULUS-3;3 REGULUS-4;3 ALKALI;3 ALKALI-2;3 MARCASITE",
     "3 SAL-AMMONIAC;3 ARSENIC;3 REALGAR;3 REALGAR-2;3 AURIPIGMENT;3 BISMUTH ORE;3 TARTAR",
     "3 TARTAR-2;3 QUICK LIME;3 BORAX;3 BORAX-2;3 BORAX-3;3 ALUM;3 OIL;3 SPIRIT;3 TINCTURE",
     "3 GUM;3 WAX;3 POWDER;3 CALX;3 TUTTY;3 CAPUT MORTUUM;3 SCEPTER OF JOVE;3 CADUCEUS",
     "3 TRIDENT;3 STARRED TRIDENT;3 LODESTONE;3 SOAP;3 URINE;3 HORSE DUNG;3 ASHES;3 POT ASHES",
     "3 BRICK;3 POWDERED BRICK;3 AMALGAM;3 STRATUM SUPER STRATUM;5 STRATUM-2;3 SUBLIMATION",
     "3 PRECIPITATE;3 DISTILL;3 DISSOLVE;3 DISSOLVE-2;3 PURIFY;3 PUTREFACTION;3 CRUCIBLE",
     "3 CRUCIBLE-2;3 CRUCIBLE-3;3 CRUCIBLE-4;3 CRUCIBLE-5;3 ALEMBIC;3 BATH OF MARY;5 VAPOURS",
     "3 RETORT;3 HOUR;3 NIGHT;3 DAY-NIGHT;3 MONTH;3 HALF DRAM;4 OUNCE"]),
   (128896,
    ["BLACK LEFT-POINTING ISOSCELES RIGHT TRIANGLE;1 UP-POINTING ISOSCELES RIGHT TRIANGLE",
     "1 RIGHT-POINTING ISOSCELES RIGHT TRIANGLE;1 DOWN-POINTING ISOSCELES RIGHT TRIANGLE",
     "1 SLIGHTLY SMALL CIRCLE;MEDIUM BOLD WHITE CIRCLE;BOLD WHITE CIRCLE;HEAVY WHITE CIRCLE",
     "VERY HEAVY WHITE CIRCLE;EXTREMELY HEAVY WHITE CIRCLE",
     "WHITE CIRCLE CONTAINING BLACK SMALL CIRCLE;ROUND TARGET;BLACK TINY SQUARE",
     "1 SLIGHTLY SMALL SQUARE;LIGHT WHITE SQUARE;MEDIUM WHITE SQUARE;BOLD WHITE SQUARE",
     "HEAVY WHITE SQUARE;VERY HEAVY WHITE SQUARE;EXTREMELY HEAVY WHITE SQUARE",
     "WHITE SQUARE CONTAINING BLACK VERY SMALL SQUARE;4 MEDIUM SQUARE;SQUARE TARGET",
     "BLACK TINY DIAMOND;1 VERY SMALL DIAMOND;1 MEDIUM SMALL DIAMOND",
     "WHITE DIAMOND CONTAINING BLACK VERY SMALL DIAMOND;4 MEDIUM DIAMOND;DIAMOND TARGET",
     "BLACK TINY LOZENGE;1 VERY SMALL LOZENGE;1 MEDIUM SMALL LOZENGE",
     "WHITE LOZENGE CONTAINING BLACK SMALL LOZENGE;THIN GREEK CROSS;LIGHT GREEK CROSS",
     "MEDIUM GREEK CROSS;BOLD GREEK CROSS;VERY BOLD GREEK CROSS;1 HEAVY GREEK CROSS",
     "EXTREMELY HEAVY GREEK CROSS;THIN SALTIRE;LIGHT SALTIRE;MEDIUM SALTIRE;BOLD SALTIRE",
     "HEAVY SALTIRE;VERY HEAVY SALTIRE;EXTREMELY HEAVY SALTIRE;LIGHT FIVE SPOKED ASTERISK",
     "MEDIUM FIVE SPOKED ASTERISK;BOLD FIVE SPOKED ASTERISK;HEAVY FIVE SPOKED ASTERISK",
     "VERY HEAVY FIVE SPOKED ASTERISK;EXTREMELY HEAVY FIVE SPOKED ASTERISK",
     "LIGHT SIX SPOKED ASTERISK;MEDIUM SIX SPOKED ASTERISK;BOLD SIX SPOKED ASTERISK",
     "HEAVY SIX SPOKED ASTERISK;VERY HEAVY SIX SPOKED ASTERISK",
     "EXTREMELY HEAVY SIX SPOKED ASTERISK;LIGHT EIGHT SPOKED ASTERISK",
     "MEDIUM EIGHT SPOKED ASTERISK;BOLD EIGHT SPOKED ASTERISK;HEAVY EIGHT SPOKED ASTERISK",
     "VERY HEAVY EIGHT SPOKED ASTERISK;LIGHT THREE POINTED BLACK STAR",
     "MEDIUM THREE POINTED BLACK STAR;THREE POINTED BLACK STAR",
     "MEDIUM THREE POINTED PINWHEEL STAR;LIGHT FOUR POINTED BLACK STAR",
     "MEDIUM FOUR POINTED BLACK STAR;FOUR POINTED BLACK STAR;MEDIUM FOUR POINTED PINWHEEL STAR",
     "REVERSE LIGHT FOUR POINTED PINWHEEL STAR;LIGHT FIVE POINTED BLACK STAR",
     "HEAVY FIVE POINTED BLACK STAR;MEDIUM SIX POINTED BLACK STAR;HEAVY SIX POINTED BLACK STAR",
     "SIX POINTED PINWHEEL STAR;MEDIUM EIGHT POINTED BLACK STAR;HEAVY EIGHT POINTED BLACK STAR",
     "VERY HEAVY EIGHT POINTED BLACK STAR;HEAVY EIGHT POINTED PINWHEEL STAR",
     "LIGHT TWELVE POINTED BLACK STAR;HEAVY TWELVE POINTED BLACK STAR;3 PINWHEEL STAR",
     "CIRCLED TRIANGLE;NEGATIVE CIRCLED TRIANGLE;CIRCLED SQUARE;NEGATIVE CIRCLED SQUARE"]),
   (128992,
    ["LARGE ORANGE CIRCLE;1 YELLOW CIRCLE;1 GREEN CIRCLE;1 PURPLE CIRCLE;1 BROWN CIRCLE",
     "1 RED SQUARE;1 BLUE SQUARE;1 ORANGE SQUARE;1 YELLOW SQUARE;1 GREEN SQUARE",
     "1 PURPLE SQUARE;1 BROWN SQUARE"]),
   (129008, ["HEAVY EQUALS SIGN"]),
   (129024,
    ["LEFTWARDS ARROW WITH SMALL TRIANGLE ARROWHEAD",
     "UPWARDS ARROW WITH SMALL TRIANGLE ARROWHEAD",
     "RIGHTWARDS ARROW WITH SMALL TRIANGLE ARROWHEAD",
     "DOWNWARDS ARROW WITH SMALL TRIANGLE ARROWHEAD",
     "LEFTWARDS ARROW WITH MEDIUM TRIANGLE ARROWHEAD",
     "UPWARDS ARROW WITH MEDIUM TRIANGLE ARROWHEAD",
     "RIGHTWARDS ARROW WITH MEDIUM TRIANGLE ARROWHEAD",
     "DOWNWARDS ARROW WITH MEDIUM TRIANGLE ARROWHEAD",
     "LEFTWARDS ARROW WITH LARGE TRIANGLE ARROWHEAD",
     "UPWARDS ARROW WITH LARGE TRIANGLE ARROWHEAD",
     "RIGHTWARDS ARROW WITH LARGE TRIANGLE ARROWHEAD",
     "DOWNWARDS ARROW WITH LARGE TRIANGLE ARROWHEAD"]),
   (129040,
    ["LEFTWARDS ARROW WITH SMALL EQUILATERAL ARROWHEAD",
     "UPWARDS ARROW WITH SMALL EQUILATERAL ARROWHEAD",
     "RIGHTWARDS ARROW WITH SMALL EQUILATERAL ARROWHEAD",
     "DOWNWARDS ARROW WITH SMALL EQUILATERAL ARROWHEAD",
     "LEFTWARDS ARROW WITH EQUILATERAL ARROWHEAD;UPWARDS ARROW WITH EQUILATERAL ARROWHEAD",
     "RIGHTWARDS ARROW WITH EQUILATERAL ARROWHEAD;DOWNWARDS ARROW WITH EQUILATERAL ARROWHEAD",
     "HEAVY LEFTWARDS ARROW WITH EQUILATERAL ARROWHEAD",
     "1 UPWARDS ARROW WITH EQUILATERAL ARROWHEAD;1 RIGHTWARDS ARROW WITH EQUILATERAL ARROWHEAD",
     "1 DOWNWARDS ARROW WITH EQUILATERAL ARROWHEAD",
     "1 LEFTWARDS ARROW WITH LARGE EQUILATERAL ARROWHEAD",
     "1 UPWARDS ARROW WITH LARGE EQUILATERAL ARROWHEAD",
     "1 RIGHTWARDS ARROW WITH LARGE EQUILATERAL ARROWHEAD",
     "1 DOWNWARDS ARROW WITH LARGE EQUILATERAL ARROWHEAD",
     "LEFTWARDS TRIANGLE-HEADED ARROW WITH NARROW SHAFT",
     "UPWARDS TRIANGLE-HEADED ARROW WITH NARROW SHAFT",
     "RIGHTWARDS TRIANGLE-HEADED ARROW WITH NARROW SHAFT",
     "DOWNWARDS TRIANGLE-HEADED ARROW WITH NARROW SHAFT",
     "LEFTWARDS TRIANGLE-HEADED ARROW WITH MEDIUM SHAFT",
     "UPWARDS TRIANGLE-HEADED ARROW WITH MEDIUM SHAFT",
     "RIGHTWARDS TRIANGLE-HEADED ARROW WITH MEDIUM SHAFT",
     "DOWNWARDS TRIANGLE-HEADED ARROW WITH MEDIUM SHAFT",
     "LEFTWARDS TRIANGLE-HEADED ARROW WITH BOLD SHAFT",
     "UPWARDS TRIANGLE-HEADED ARROW WITH BOLD SHAFT",
     "RIGHTWARDS TRIANGLE-HEADED ARROW WITH BOLD SHAFT",
     "DOWNWARDS TRIANGLE-HEADED ARROW WITH BOLD SHAFT",
     "LEFTWARDS TRIANGLE-HEADED ARROW WITH HEAVY SHAFT",
     "UPWARDS TRIANGLE-HEADED ARROW WITH HEAVY SHAFT",
     "RIGHTWARDS TRIANGLE-HEADED ARROW WITH HEAVY SHAFT",
     "DOWNWARDS TRIANGLE-HEADED ARROW WITH HEAVY SHAFT",
     "LEFTWARDS TRIANGLE-HEADED ARROW WITH VERY HEAVY SHAFT",
     "UPWARDS TRIANGLE-HEADED ARROW WITH VERY HEAVY SHAFT",
     "RIGHTWARDS TRIANGLE-HEADED ARROW WITH VERY HEAVY SHAFT",
     "DOWNWARDS TRIANGLE-HEADED ARROW WITH VERY HEAVY SHAFT;LEFTWARDS FINGER-POST ARROW",
     "UPWARDS FINGER-POST ARROW;RIGHTWARDS FINGER-POST ARROW;DOWNWARDS FINGER-POST ARROW",
     "LEFTWARDS SQUARED ARROW;UPWARDS SQUARED ARROW;RIGHTWARDS SQUARED ARROW",
     "DOWNWARDS SQUARED ARROW;LEFTWARDS COMPRESSED ARROW;UPWARDS COMPRESSED ARROW",
     "RIGHTWARDS COMPRESSED ARROW;DOWNWARDS COMPRESSED ARROW;LEFTWARDS HEAVY COMPRESSED ARROW",
     "UPWARDS HEAVY COMPRESSED ARROW;RIGHTWARDS HEAVY COMPRESSED ARROW",
     "DOWNWARDS HEAVY COMPRESSED ARROW;LEFTWARDS HEAVY ARROW;UPWARDS HEAVY ARROW",
     "RIGHTWARDS HEAVY ARROW;DOWNWARDS HEAVY ARROW"]),
   (129104,
    ["LEFTWARDS SANS-SERIF ARROW;UPWARDS SANS-SERIF ARROW;RIGHTWARDS SANS-SERIF ARROW",
     "DOWNWARDS SANS-SERIF ARROW;NORTH WEST SANS-SERIF ARROW;1 EAST SANS-SERIF ARROW",
     "SOUTH EAST SANS-SERIF ARROW;1 WEST SANS-SERIF ARROW;LEFT RIGHT SANS-SERIF ARROW",
     "UP DOWN SANS-SERIF ARROW"]),
   (129120,
    ["WIDE-HEADED LEFTWARDS LIGHT BARB ARROW;1 UPWARDS LIGHT BARB ARROW",
     "1 RIGHTWARDS LIGHT BARB ARROW;1 DOWNWARDS LIGHT BARB ARROW;1 NORTH WEST LIGHT BARB ARROW",
     "2 EAST LIGHT BARB ARROW;1 SOUTH EAST LIGHT BARB ARROW;2 WEST LIGHT BARB ARROW",
     "1 LEFTWARDS BARB ARROW;1 UPWARDS BARB ARROW;1 RIGHTWARDS BARB ARROW",
     "1 DOWNWARDS BARB ARROW;1 NORTH WEST BARB ARROW;2 EAST BARB ARROW;1 SOUTH EAST BARB ARROW",
     "2 WEST BARB ARROW;1 LEFTWARDS MEDIUM BARB ARROW;1 UPWARDS MEDIUM BARB ARROW",
     "1 RIGHTWARDS MEDIUM BARB ARROW;1 DOWNWARDS MEDIUM BARB ARROW",
     "1 NORTH WEST MEDIUM BARB ARROW;2 EAST MEDIUM BARB ARROW;1 SOUTH EAST MEDIUM BARB ARROW",
     "2 WEST MEDIUM BARB ARROW;1 LEFTWARDS HEAVY BARB ARROW;1 UPWARDS HEAVY BARB ARROW",
     "1 RIGHTWARDS HEAVY BARB ARROW;1 DOWNWARDS HEAVY BARB ARROW;1 NORTH WEST HEAVY BARB ARROW",
     "2 EAST HEAVY BARB ARROW;1 SOUTH EAST HEAVY BARB ARROW;2 WEST HEAVY BARB ARROW",
     "1 LEFTWARDS VERY HEAVY BARB ARROW;1 UPWARDS VERY HEAVY BARB ARROW",
     "1 RIGHTWARDS VERY HEAVY BARB ARROW;1 DOWNWARDS VERY HEAVY BARB ARROW",
     "1 NORTH WEST VERY HEAVY BARB ARROW;2 EAST VERY HEAVY BARB ARROW",
     "1 SOUTH EAST VERY HEAVY BARB ARROW;2 WEST VERY HEAVY BARB ARROW"]),
   (129168,
    ["LEFTWARDS TRIANGLE ARROWHEAD;UPWARDS TRIANGLE ARROWHEAD;RIGHTWARDS TRIANGLE ARROWHEAD",
     "DOWNWARDS TRIANGLE ARROWHEAD;LEFTWARDS WHITE ARROW WITHIN TRIANGLE ARROWHEAD",
     "UPWARDS WHITE ARROW WITHIN TRIANGLE ARROWHEAD",
     "RIGHTWARDS WHITE ARROW WITHIN TRIANGLE ARROWHEAD",
     "DOWNWARDS WHITE ARROW WITHIN TRIANGLE ARROWHEAD;LEFTWARDS ARROW WITH NOTCHED TAIL",
     "UPWARDS ARROW WITH NOTCHED TAIL;RIGHTWARDS ARROW WITH NOTCHED TAIL",
     "DOWNWARDS ARROW WITH NOTCHED TAIL;HEAVY ARROW SHAFT WIDTH ONE;4 TWO THIRDS;4 ONE HALF",
     "5 THIRD;LEFTWARDS BOTTOM-SHADED WHITE ARROW;RIGHTWARDS BOTTOM SHADED WHITE ARROW",
     "LEFTWARDS TOP SHADED WHITE ARROW;RIGHTWARDS TOP SHADED WHITE ARROW",
     "LEFTWARDS LEFT-SHADED WHITE ARROW;RIGHTWARDS RIGHT-SHADED WHITE ARROW",
     "LEFTWARDS RIGHT-SHADED WHITE ARROW;RIGHTWARDS LEFT-SHADED WHITE ARROW",
     "LEFTWARDS BACK-TILTED SHADOWED WHITE ARROW;RIGHTWARDS BACK-TILTED SHADOWED WHITE ARROW",
     "LEFTWARDS FRONT-TILTED SHADOWED WHITE ARROW;RIGHTWARDS FRONT-TILTED SHADOWED WHITE ARROW",
     "WHITE ARROW SHAFT WIDTH ONE;4 TWO THIRDS"]),
   (129200, ["ARROW POINTING UPWARDS THEN NORTH WEST;2 RIGHTWARDS THEN CURVING SOUTH WEST"]),
   (129280,
    ["CIRCLED CROSS FORMEE WITH FOUR DOTS;4 TWO DOTS;2 FORMEE;LEFT HALF CIRCLE WITH FOUR DOTS",
     "4 THREE DOTS;4 TWO DOTS;4 DOT;2 CIRCLE;DOWNWARD FACING HOOK;2 NOTCHED HOOK",
     "2 HOOK WITH DOT;2 NOTCHED HOOK WITH DOT;PINCHED FINGERS;WHITE HEART;BROWN HEART",
     "PINCHING HAND;ZIPPER-MOUTH FACE;MONEY-MOUTH FACE;FACE WITH THERMOMETER;NERD FACE",
     "THINKING FACE;FACE WITH HEAD-BANDAGE;ROBOT FACE;HUGGING FACE;SIGN OF THE HORNS",
     "CALL ME HAND;RAISED BACK OF HAND;LEFT-FACING FIST;RIGHT-FACING FIST;HANDSHAKE",
     "HAND WITH INDEX AND MIDDLE FINGERS CROSSED;I LOVE YOU HAND SIGN;FACE WITH COWBOY HAT",
     "CLOWN FACE;NAUSEATED FACE;ROLLING ON THE FLOOR LAUGHING;DROOLING FACE;LYING FACE",
     "FACE PALM;SNEEZING FACE;FACE WITH ONE EYEBROW RAISED;GRINNING FACE WITH STAR EYES",
     "3 ONE LARGE AND ONE SMALL EYE;FACE WITH FINGER COVERING CLOSED LIPS",
     "SERIOUS FACE WITH SYMBOLS COVERING MOUTH",
     "SMILING FACE WITH SMILING EYES AND HAND COVERING MOUTH;FACE WITH OPEN MOUTH VOMITING",
     "SHOCKED FACE WITH EXPLODING HEAD;PREGNANT WOMAN;BREAST-FEEDING;PALMS UP TOGETHER;SELFIE",
     "PRINCE;MAN IN TUXEDO;MOTHER CHRISTMAS;SHRUG;PERSON DOING CARTWHEEL;JUGGLING;FENCER",
     "MODERN PENTATHLON;WRESTLERS;WATER POLO;HANDBALL;DIVING MASK;WILTED FLOWER",
     "DRUM WITH DRUMSTICKS;CLINKING GLASSES;TUMBLER GLASS;SPOON;GOAL NET;RIFLE",
     "FIRST PLACE MEDAL;SECOND PLACE MEDAL;THIRD PLACE MEDAL;BOXING GLOVE;MARTIAL ARTS UNIFORM",
     "CURLING STONE;LACROSSE STICK AND BALL;SOFTBALL;FLYING DISC;CROISSANT;AVOCADO;CUCUMBER",
     "BACON;POTATO;CARROT;BAGUETTE BREAD;GREEN SALAD;SHALLOW PAN OF FOOD;STUFFED FLATBREAD;EGG",
     "GLASS OF MILK;PEANUTS;KIWIFRUIT;PANCAKES;DUMPLING;FORTUNE COOKIE;TAKEOUT BOX;CHOPSTICKS",
     "BOWL WITH SPOON;CUP WITH STRAW;COCONUT;BROCCOLI;PIE;PRETZEL;CUT OF MEAT;SANDWICH",
     "CANNED FOOD;LEAFY GREEN;MANGO;MOON CAKE;BAGEL",
     "SMILING FACE WITH SMILING EYES AND THREE HEARTS;YAWNING FACE;SMILING FACE WITH TEAR",
     "FACE WITH PARTY HORN AND PARTY HAT;2 UNEVEN EYES AND WAVY MOUTH;OVERHEATED FACE",
     "FREEZING FACE;NINJA;DISGUISED FACE;FACE HOLDING BACK TEARS;1 WITH PLEADING EYES;SARI",
     "LAB COAT;GOGGLES;HIKING BOOT;FLAT SHOE;CRAB;LION FACE;SCORPION;TURKEY;UNICORN FACE;EAGLE",
     "DUCK;BAT;SHARK;OWL;FOX FACE;BUTTERFLY;DEER;GORILLA;LIZARD;RHINOCEROS;SHRIMP;SQUID",
     "GIRAFFE FACE;ZEBRA FACE;HEDGEHOG;SAUROPOD;T-REX;CRICKET;KANGAROO;LLAMA;PEACOCK",
     "HIPPOPOTAMUS;PARROT;RACCOON;LOBSTER;MOSQUITO;MICROBE;BADGER;SWAN;MAMMOTH;DODO;SLOTH",
     "OTTER;ORANGUTAN;SKUNK;FLAMINGO;OYSTER;BEAVER;BISON;SEAL;GUIDE DOG;PROBING CANE",
     "EMOJI COMPONENT RED HAIR;2 CURLY HAIR;2 BALD;2 WHITE HAIR;BONE;LEG;FOOT;TOOTH;SUPERHERO",
     "SUPERVILLAIN;SAFETY VEST;EAR WITH HEARING AID;MOTORIZED WHEELCHAIR;MANUAL WHEELCHAIR",
     "MECHANICAL ARM;1 LEG;CHEESE WEDGE;CUPCAKE;SALT SHAKER;BEVERAGE BOX;GARLIC;ONION;FALAFEL",
     "WAFFLE;BUTTER;MATE DRINK;ICE CUBE;BUBBLE TEA;TROLL;STANDING PERSON;KNEELING PERSON",
     "DEAF PERSON;FACE WITH MONOCLE;ADULT;CHILD;OLDER ADULT;BEARDED PERSON",
     "PERSON WITH HEADSCARF;1 IN STEAMY ROOM;1 CLIMBING;1 IN LOTUS POSITION;MAGE;FAIRY;VAMPIRE",
     "MERPERSON;ELF;GENIE;ZOMBIE;BRAIN;ORANGE HEART;BILLED CAP;SCARF;GLOVES;COAT;SOCKS",
     "RED GIFT ENVELOPE;FIRECRACKER;JIGSAW PUZZLE PIECE;TEST TUBE;PETRI DISH;DNA DOUBLE HELIX",
     "COMPASS;ABACUS;FIRE EXTINGUISHER;TOOLBOX;BRICK;MAGNET;LUGGAGE;LOTION BOTTLE",
     "SPOOL OF THREAD;BALL OF YARN;SAFETY PIN;TEDDY BEAR;BROOM;BASKET;ROLL OF PAPER",
     "BAR OF SOAP;SPONGE;RECEIPT;NAZAR AMULET;NEUTRAL CHESS KING;2 QUEEN;2 ROOK;2 BISHOP",
     "2 KNIGHT;2 PAWN;WHITE CHESS KNIGHT ROTATED FORTY-FIVE DEGREES",
     "BLACK CHESS KNIGHT ROTATED FORTY-FIVE DEGREES",
     "NEUTRAL CHESS KNIGHT ROTATED FORTY-FIVE DEGREES;WHITE CHESS KING ROTATED NINETY DEGREES",
     "2 QUEEN ROTATED NINETY DEGREES;2 ROOK ROTATED NINETY DEGREES",
     "2 BISHOP ROTATED NINETY DEGREES;2 KNIGHT ROTATED NINETY DEGREES",
     "2 PAWN ROTATED NINETY DEGREES;BLACK CHESS KING ROTATED NINETY DEGREES",
     "2 QUEEN ROTATED NINETY DEGREES;2 ROOK ROTATED NINETY DEGREES",
     "2 BISHOP ROTATED NINETY DEGREES;2 KNIGHT ROTATED NINETY DEGREES",
     "2 PAWN ROTATED NINETY DEGREES;NEUTRAL CHESS KING ROTATED NINETY DEGREES",
     "2 QUEEN ROTATED NINETY DEGREES;2 ROOK ROTATED NINETY DEGREES",
     "2 BISHOP ROTATED NINETY DEGREES;2 KNIGHT ROTATED NINETY DEGREES",
     "2 PAWN ROTATED NINETY DEGREES;WHITE CHESS KNIGHT ROTATED ONE HUNDRED THIRTY-FIVE DEGREES",
     "BLACK CHESS KNIGHT ROTATED ONE HUNDRED THIRTY-FIVE DEGREES",
     "NEUTRAL CHESS KNIGHT ROTATED ONE HUNDRED THIRTY-FIVE DEGREES;WHITE CHESS TURNED KING",
     "3 QUEEN;3 ROOK;3 BISHOP;3 KNIGHT;3 PAWN;BLACK CHESS TURNED KING;3 QUEEN;3 ROOK;3 BISHOP",
     "3 KNIGHT;3 PAWN;NEUTRAL CHESS TURNED KING;3 QUEEN;3 ROOK;3 BISHOP;3 KNIGHT;3 PAWN",
     "WHITE CHESS KNIGHT ROTATED TWO HUNDRED TWENTY-FIVE DEGREES",
     "BLACK CHESS KNIGHT ROTATED TWO HUNDRED TWENTY-FIVE DEGREES",
     "NEUTRAL CHESS KNIGHT ROTATED TWO HUNDRED TWENTY-FIVE DEGREES",
     "WHITE CHESS KING ROTATED TWO HUNDRED SEVENTY DEGREES",
     "2 QUEEN ROTATED TWO HUNDRED SEVENTY DEGREES;2 ROOK ROTATED TWO HUNDRED SEVENTY DEGREES",
     "2 BISHOP ROTATED TWO HUNDRED SEVENTY DEGREES",
     "2 KNIGHT ROTATED TWO HUNDRED SEVENTY DEGREES;2 PAWN ROTATED TWO HUNDRED SEVENTY DEGREES",
     "BLACK CHESS KING ROTATED TWO HUNDRED SEVENTY DEGREES",
     "2 QUEEN ROTATED TWO HUNDRED SEVENTY DEGREES;2 ROOK ROTATED TWO HUNDRED SEVENTY DEGREES",
     "2 BISHOP ROTATED TWO HUNDRED SEVENTY DEGREES",
     "2 KNIGHT ROTATED TWO HUNDRED SEVENTY DEGREES;2 PAWN ROTATED TWO HUNDRED SEVENTY DEGREES",
     "NEUTRAL CHESS KING ROTATED TWO HUNDRED SEVENTY DEGREES",
     "2 QUEEN ROTATED TWO HUNDRED SEVENTY DEGREES;2 ROOK ROTATED TWO HUNDRED SEVENTY DEGREES",
     "2 BISHOP ROTATED TWO HUNDRED SEVENTY DEGREES",
     "2 KNIGHT ROTATED TWO HUNDRED SEVENTY DEGREES;2 PAWN ROTATED TWO HUNDRED SEVENTY DEGREES",
     "WHITE CHESS KNIGHT ROTATED THREE HUNDRED FIFTEEN DEGREES",
     "BLACK CHESS KNIGHT ROTATED THREE HUNDRED FIFTEEN DEGREES",
     "NEUTRAL CHESS KNIGHT ROTATED THREE HUNDRED FIFTEEN DEGREES;WHITE CHESS EQUIHOPPER",
     "BLACK CHESS EQUIHOPPER;NEUTRAL CHESS EQUIHOPPER",
     "WHITE CHESS EQUIHOPPER ROTATED NINETY DEGREES",
     "BLACK CHESS EQUIHOPPER ROTATED NINETY DEGREES",
     "NEUTRAL CHESS EQUIHOPPER ROTATED NINETY DEGREES;WHITE CHESS KNIGHT-QUEEN;2 KNIGHT-ROOK",
     "2 KNIGHT-BISHOP;BLACK CHESS KNIGHT-QUEEN;2 KNIGHT-ROOK;2 KNIGHT-BISHOP"]),
   (129632,
    ["XIANGQI RED GENERAL;2 MANDARIN;2 ELEPHANT;2 HORSE;2 CHARIOT;2 CANNON;2 SOLDIER",
     "1 BLACK GENERAL;2 MANDARIN;2 ELEPHANT;2 HORSE;2 CHARIOT;2 CANNON;2 SOLDIER"]),
   (129648, ["BALLET SHOES;ONE-PIECE SWIMSUIT;BRIEFS;SHORTS;THONG SANDAL"]),
   (129656, ["DROP OF BLOOD;ADHESIVE BANDAGE;STETHOSCOPE;X-RAY;CRUTCH"]),
   (129664, ["YO-YO;KITE;PARACHUTE;BOOMERANG;MAGIC WAND;PINATA;NESTING DOLLS"]),
   (129680,
    ["RINGED PLANET;CHAIR;RAZOR;AXE;DIYA LAMP;BANJO;MILITARY HELMET;ACCORDION;LONG DRUM;COIN",
     "CARPENTRY SAW;SCREWDRIVER;LADDER;HOOK;MIRROR;WINDOW;PLUNGER;SEWING NEEDLE;KNOT;BUCKET",
     "MOUSE TRAP;TOOTHBRUSH;HEADSTONE;PLACARD;ROCK;MIRROR BALL;IDENTIFICATION CARD;LOW BATTERY",
     "HAMSA"]),
   (129712,
    ["FLY;WORM;BEETLE;COCKROACH;POTTED PLANT;WOOD;FEATHER;LOTUS;CORAL;EMPTY NEST",
     "NEST WITH EGGS"]),
   (129728, ["ANATOMICAL HEART;LUNGS;PEOPLE HUGGING;PREGNANT MAN;1 PERSON;PERSON WITH CROWN"]),
   (129744,
    ["BLUEBERRIES;BELL PEPPER;OLIVE;FLATBREAD;TAMALE;FONDUE;TEAPOT;POURING LIQUID;BEANS;JAR"]),
   (129760,
    ["MELTING FACE;SALUTING FACE;FACE WITH OPEN EYES AND HAND OVER MOUTH;2 PEEKING EYE",
     "2 DIAGONAL MOUTH;DOTTED LINE FACE;BITING LIP;BUBBLES"]),
   (129776,
    ["HAND WITH INDEX FINGER AND THUMB CROSSED;RIGHTWARDS HAND;LEFTWARDS HAND;PALM DOWN HAND",
     "1 UP HAND;INDEX POINTING AT THE VIEWER;HEART HANDS"]),
   (129792,
    ["BLOCK SEXTANT-1;1 SEXTANT-2;1 SEXTANT-12;1 SEXTANT-3;1 SEXTANT-13;1 SEXTANT-23",
     "1 SEXTANT-123;1 SEXTANT-4;1 SEXTANT-14;1 SEXTANT-24;1 SEXTANT-124;1 SEXTANT-34",
     "1 SEXTANT-134;1 SEXTANT-234;1 SEXTANT-1234;1 SEXTANT-5;1 SEXTANT-15;1 SEXTANT-25",
     "1 SEXTANT-125;1 SEXTANT-35;1 SEXTANT-235;1 SEXTANT-1235;1 SEXTANT-45;1 SEXTANT-145",
     "1 SEXTANT-245;1 SEXTANT-1245;1 SEXTANT-345;1 SEXTANT-1345;1 SEXTANT-2345;1 SEXTANT-12345",
     "1 SEXTANT-6;1 SEXTANT-16;1 SEXTANT-26;1 SEXTANT-126;1 SEXTANT-36;1 SEXTANT-136",
     "1 SEXTANT-236;1 SEXTANT-1236;1 SEXTANT-46;1 SEXTANT-146;1 SEXTANT-1246;1 SEXTANT-346",
     "1 SEXTANT-1346;1 SEXTANT-2346;1 SEXTANT-12346;1 SEXTANT-56;1 SEXTANT-156;1 SEXTANT-256",
     "1 SEXTANT-1256;1 SEXTANT-356;1 SEXTANT-1356;1 SEXTANT-2356;1 SEXTANT-12356;1 SEXTANT-456",
     "1 SEXTANT-1456;1 SEXTANT-2456;1 SEXTANT-12456;1 SEXTANT-3456;1 SEXTANT-13456",
     "1 SEXTANT-23456;LOWER LEFT BLOCK DIAGONAL LOWER MIDDLE LEFT TO LOWER CENTRE;9 RIGHT",
     "4 UPPER MIDDLE LEFT TO LOWER CENTRE;9 RIGHT;5 LEFT TO LOWER CENTRE",
     "1 RIGHT BLOCK DIAGONAL UPPER MIDDLE LEFT TO UPPER CENTRE;9 RIGHT",
     "4 LOWER MIDDLE LEFT TO UPPER CENTRE;9 RIGHT;5 LEFT TO UPPER CENTRE",
     "5 MIDDLE LEFT TO UPPER MIDDLE RIGHT;5 CENTRE TO LOWER MIDDLE RIGHT",
     "5 LEFT TO LOWER MIDDLE RIGHT;5 CENTRE TO UPPER MIDDLE RIGHT;5 LEFT TO UPPER MIDDLE RIGHT",
     "5 CENTRE TO UPPER RIGHT;1 LEFT BLOCK DIAGONAL UPPER CENTRE TO UPPER MIDDLE RIGHT",
     "5 LEFT TO UPPER MIDDLE RIGHT;5 CENTRE TO LOWER MIDDLE RIGHT;5 LEFT TO LOWER MIDDLE RIGHT",
     "5 CENTRE TO LOWER RIGHT;5 MIDDLE LEFT TO LOWER MIDDLE RIGHT",
     "UPPER RIGHT BLOCK DIAGONAL LOWER MIDDLE LEFT TO LOWER CENTRE;9 RIGHT",
     "4 UPPER MIDDLE LEFT TO LOWER CENTRE;9 RIGHT;5 LEFT TO LOWER CENTRE",
     "1 LEFT BLOCK DIAGONAL UPPER MIDDLE LEFT TO UPPER CENTRE;9 RIGHT",
     "4 LOWER MIDDLE LEFT TO UPPER CENTRE;9 RIGHT;5 LEFT TO UPPER CENTRE",
     "5 MIDDLE LEFT TO UPPER MIDDLE RIGHT;5 CENTRE TO LOWER MIDDLE RIGHT",
     "5 LEFT TO LOWER MIDDLE RIGHT;5 CENTRE TO UPPER MIDDLE RIGHT;5 LEFT TO UPPER MIDDLE RIGHT",
     "5 CENTRE TO UPPER RIGHT;1 RIGHT BLOCK DIAGONAL UPPER CENTRE TO UPPER MIDDLE RIGHT",
     "5 LEFT TO UPPER MIDDLE RIGHT;5 CENTRE TO LOWER MIDDLE RIGHT;5 LEFT TO LOWER MIDDLE RIGHT",
     "5 CENTRE TO LOWER RIGHT;5 MIDDLE LEFT TO LOWER MIDDLE RIGHT",
     "1 AND RIGHT AND LOWER TRIANGULAR THREE QUARTERS BLOCK",
     "LEFT AND LOWER AND RIGHT TRIANGULAR THREE QUARTERS BLOCK",
     "UPPER AND LEFT AND LOWER TRIANGULAR THREE QUARTERS BLOCK",
     "LEFT AND UPPER AND RIGHT TRIANGULAR THREE QUARTERS BLOCK;1 TRIANGULAR ONE QUARTER BLOCK",
     "UPPER TRIANGULAR ONE QUARTER BLOCK;RIGHT TRIANGULAR ONE QUARTER BLOCK",
     "LOWER TRIANGULAR ONE QUARTER BLOCK;VERTICAL ONE EIGHTH BLOCK-2;3 BLOCK-3;3 BLOCK-4",
     "3 BLOCK-5;3 BLOCK-6;3 BLOCK-7;HORIZONTAL ONE EIGHTH BLOCK-2;3 BLOCK-3;3 BLOCK-4",
     "3 BLOCK-5;3 BLOCK-6;3 BLOCK-7;LEFT AND LOWER ONE EIGHTH BLOCK;2 UPPER ONE EIGHTH BLOCK",
     "RIGHT AND UPPER ONE EIGHTH BLOCK;2 LOWER ONE EIGHTH BLOCK",
     "UPPER AND LOWER ONE EIGHTH BLOCK;HORIZONTAL ONE EIGHTH BLOCK-1358",
     "UPPER ONE QUARTER BLOCK;1 THREE EIGHTHS BLOCK;1 FIVE EIGHTHS BLOCK",
     "1 THREE QUARTERS BLOCK;1 SEVEN EIGHTHS BLOCK;RIGHT ONE QUARTER BLOCK",
     "1 THREE EIGHTHS BLOCK;1 FIVE EIGHTHS BLOCK;1 THREE QUARTERS BLOCK;1 SEVEN EIGHTHS BLOCK",
     "LEFT HALF MEDIUM SHADE;RIGHT HALF MEDIUM SHADE;UPPER HALF MEDIUM SHADE",
     "LOWER HALF MEDIUM SHADE;INVERSE MEDIUM SHADE",
     "UPPER HALF BLOCK AND LOWER HALF INVERSE MEDIUM SHADE",
     "2 INVERSE MEDIUM SHADE AND LOWER HALF BLOCK"]),
   (129940,
    ["LEFT HALF INVERSE MEDIUM SHADE AND RIGHT HALF BLOCK;CHECKER BOARD FILL",
     "INVERSE CHECKER BOARD FILL;HEAVY HORIZONTAL FILL;UPPER LEFT TO LOWER RIGHT FILL",
     "1 RIGHT TO LOWER LEFT FILL;1 AND LOWER TRIANGULAR HALF BLOCK",
     "LEFT AND RIGHT TRIANGULAR HALF BLOCK;UPPER LEFT TRIANGULAR MEDIUM SHADE",
     "1 RIGHT TRIANGULAR MEDIUM SHADE;LOWER RIGHT TRIANGULAR MEDIUM SHADE",
     "1 LEFT TRIANGULAR MEDIUM SHADE;BOX DRAWINGS LIGHT DIAGONAL UPPER CENTRE TO MIDDLE LEFT",
     "8 RIGHT;4 MIDDLE LEFT TO LOWER CENTRE;5 RIGHT TO LOWER CENTRE",
     "4 UPPER CENTRE TO MIDDLE LEFT TO LOWER CENTRE;8 RIGHT TO LOWER CENTRE",
     "4 MIDDLE LEFT TO LOWER CENTRE TO MIDDLE RIGHT;7 UPPER CENTRE TO MIDDLE RIGHT",
     "4 UPPER CENTRE TO MIDDLE LEFT AND MIDDLE RIGHT TO LOWER CENTRE",
     "8 RIGHT AND MIDDLE LEFT TO LOWER CENTRE;9 TO LOWER CENTRE TO MIDDLE LEFT",
     "8 LEFT TO LOWER CENTRE TO MIDDLE RIGHT",
     "4 MIDDLE LEFT TO UPPER CENTRE TO MIDDLE RIGHT TO LOWER CENTRE",
     "5 RIGHT TO UPPER CENTRE TO MIDDLE LEFT TO LOWER CENTRE;4 DIAMOND",
     "3 HORIZONTAL WITH VERTICAL STROKE;ARROWHEAD-SHAPED POINTER;INVERSE CHECK MARK",
     "LEFT HALF RUNNING MAN;RIGHT HALF RUNNING MAN;INVERSE DOWNWARDS ARROW WITH TIP LEFTWARDS",
     "LEFTWARDS ARROW AND UPPER AND LOWER ONE EIGHTH BLOCK",
     "RIGHTWARDS ARROW AND UPPER AND LOWER ONE EIGHTH BLOCK",
     "DOWNWARDS ARROW AND RIGHT ONE EIGHTH BLOCK;UPWARDS ARROW AND RIGHT ONE EIGHTH BLOCK",
     "LEFT HALF FOLDER;RIGHT HALF FOLDER;VOIDED GREEK CROSS;RIGHT OPEN SQUARED DOT",
     "NEGATIVE DIAGONAL CROSS;2 MIDDLE RIGHT TO LOWER CENTRE;2 DIAMOND",
     "WHITE HEAVY SALTIRE WITH ROUNDED CORNERS;LEFT THIRD WHITE RIGHT POINTING INDEX",
     "MIDDLE THIRD WHITE RIGHT POINTING INDEX;RIGHT THIRD WHITE RIGHT POINTING INDEX",
     "NEGATIVE SQUARED QUESTION MARK;STICK FIGURE;2 WITH ARMS RAISED;2 LEANING LEFT;3 RIGHT",
     "2 WITH DRESS;WHITE UP-POINTING CHEVRON"]),
   (130032,
    ["SEGMENTED DIGIT ZERO;2 ONE;2 TWO;2 THREE;2 FOUR;2 FIVE;2 SIX;2 SEVEN;2 EIGHT;2 NINE"]),
   (917505, ["LANGUAGE TAG"]),
   (917536,
    ["TAG SPACE;1 EXCLAMATION MARK;1 QUOTATION MARK;1 NUMBER SIGN;1 DOLLAR SIGN;1 PERCENT SIGN",
     "1 AMPERSAND;1 APOSTROPHE;1 LEFT PARENTHESIS;1 RIGHT PARENTHESIS;1 ASTERISK;1 PLUS SIGN",
     "1 COMMA;1 HYPHEN-MINUS;1 FULL STOP;1 SOLIDUS;1 DIGIT ZERO;2 ONE;2 TWO;2 THREE;2 FOUR",
     "2 FIVE;2 SIX;2 SEVEN;2 EIGHT;2 NINE;1 COLON;1 SEMICOLON;1 LESS-THAN SIGN;1 EQUALS SIGN",
     "1 GREATER-THAN SIGN;1 QUESTION MARK;1 COMMERCIAL AT;1 LATIN CAPITAL LETTER A;4 B;4 C;4 D",
     "4 E;4 F;4 G;4 H;4 I;4 J;4 K;4 L;4 M;4 N;4 O;4 P;4 Q;4 R;4 S;4 T;4 U;4 V;4 W;4 X;4 Y;4 Z",
     "1 LEFT SQUARE BRACKET;1 REVERSE SOLIDUS;1 RIGHT SQUARE BRACKET;1 CIRCUMFLEX ACCENT",
     "1 LOW LINE;1 GRAVE ACCENT;1 LATIN SMALL LETTER A;4 B;4 C;4 D;4 E;4 F;4 G;4 H;4 I;4 J;4 K",
     "4 L;4 M;4 N;4 O;4 P;4 Q;4 R;4 S;4 T;4 U;4 V;4 W;4 X;4 Y;4 Z;1 LEFT CURLY BRACKET",
     "1 VERTICAL LINE;1 RIGHT CURLY BRACKET;1 TILDE;CANCEL TAG"]),
   (917760,
    ["VARIATION SELECTOR-17;1 SELECTOR-18;1 SELECTOR-19;1 SELECTOR-20;1 SELECTOR-21",
     "1 SELECTOR-22;1 SELECTOR-23;1 SELECTOR-24;1 SELECTOR-25;1 SELECTOR-26;1 SELECTOR-27",
     "1 SELECTOR-28;1 SELECTOR-29;1 SELECTOR-30;1 SELECTOR-31;1 SELECTOR-32;1 SELECTOR-33",
     "1 SELECTOR-34;1 SELECTOR-35;1 SELECTOR-36;1 SELECTOR-37;1 SELECTOR-38;1 SELECTOR-39",
     "1 SELECTOR-40;1 SELECTOR-41;1 SELECTOR-42;1 SELECTOR-43;1 SELECTOR-44;1 SELECTOR-45",
     "1 SELECTOR-46;1 SELECTOR-47;1 SELECTOR-48;1 SELECTOR-49;1 SELECTOR-50;1 SELECTOR-51",
     "1 SELECTOR-52;1 SELECTOR-53;1 SELECTOR-54;1 SELECTOR-55;1 SELECTOR-56;1 SELECTOR-57",
     "1 SELECTOR-58;1 SELECTOR-59;1 SELECTOR-60;1 SELECTOR-61;1 SELECTOR-62;1 SELECTOR-63",
     "1 SELECTOR-64;1 SELECTOR-65;1 SELECTOR-66;1 SELECTOR-67;1 SELECTOR-68;1 SELECTOR-69",
     "1 SELECTOR-70;1 SELECTOR-71;1 SELECTOR-72;1 SELECTOR-73;1 SELECTOR-74;1 SELECTOR-75",
     "1 SELECTOR-76;1 SELECTOR-77;1 SELECTOR-78;1 SELECTOR-79;1 SELECTOR-80;1 SELECTOR-81",
     "1 SELECTOR-82;1 SELECTOR-83;1 SELECTOR-84;1 SELECTOR-85;1 SELECTOR-86;1 SELECTOR-87",
     "1 SELECTOR-88;1 SELECTOR-89;1 SELECTOR-90;1 SELECTOR-91;1 SELECTOR-92;1 SELECTOR-93",
     "1 SELECTOR-94;1 SELECTOR-95;1 SELECTOR-96;1 SELECTOR-97;1 SELECTOR-98;1 SELECTOR-99",
     "1 SELECTOR-100;1 SELECTOR-101;1 SELECTOR-102;1 SELECTOR-103;1 SELECTOR-104",
     "1 SELECTOR-105;1 SELECTOR-106;1 SELECTOR-107;1 SELECTOR-108;1 SELECTOR-109",
     "1 SELECTOR-110;1 SELECTOR-111;1 SELECTOR-112;1 SELECTOR-113;1 SELECTOR-114",
     "1 SELECTOR-115;1 SELECTOR-116;1 SELECTOR-117;1 SELECTOR-118;1 SELECTOR-119",
     "1 SELECTOR-120;1 SELECTOR-121;1 SELECTOR-122;1 SELECTOR-123;1 SELECTOR-124",
     "1 SELECTOR-125;1 SELECTOR-126;1 SELECTOR-127;1 SELECTOR-128;1 SELECTOR-129",
     "1 SELECTOR-130;1 SELECTOR-131;1 SELECTOR-132;1 SELECTOR-133;1 SELECTOR-134",
     "1 SELECTOR-135;1 SELECTOR-136;1 SELECTOR-137;1 SELECTOR-138;1 SELECTOR-139",
     "1 SELECTOR-140;1 SELECTOR-141;1 SELECTOR-142;1 SELECTOR-143;1 SELECTOR-144",
     "1 SELECTOR-145;1 SELECTOR-146;1 SELECTOR-147;1 SELECTOR-148;1 SELECTOR-149",
     "1 SELECTOR-150;1 SELECTOR-151;1 SELECTOR-152;1 SELECTOR-153;1 SELECTOR-154",
     "1 SELECTOR-155;1 SELECTOR-156;1 SELECTOR-157;1 SELECTOR-158;1 SELECTOR-159",
     "1 SELECTOR-160;1 SELECTOR-161;1 SELECTOR-162;1 SELECTOR-163;1 SELECTOR-164",
     "1 SELECTOR-165;1 SELECTOR-166;1 SELECTOR-167;1 SELECTOR-168;1 SELECTOR-169",
     "1 SELECTOR-170;1 SELECTOR-171;1 SELECTOR-172;1 SELECTOR-173;1 SELECTOR-174",
     "1 SELECTOR-175;1 SELECTOR-176;1 SELECTOR-177;1 SELECTOR-178;1 SELECTOR-179",
     "1 SELECTOR-180;1 SELECTOR-181;1 SELECTOR-182;1 SELECTOR-183;1 SELECTOR-184",
     "1 SELECTOR-185;1 SELECTOR-186;1 SELECTOR-187;1 SELECTOR-188;1 SELECTOR-189",
     "1 SELECTOR-190;1 SELECTOR-191;1 SELECTOR-192;1 SELECTOR-193;1 SELECTOR-194",
     "1 SELECTOR-195;1 SELECTOR-196;1 SELECTOR-197;1 SELECTOR-198;1 SELECTOR-199",
     "1 SELECTOR-200;1 SELECTOR-201;1 SELECTOR-202;1 SELECTOR-203;1 SELECTOR-204",
     "1 SELECTOR-205;1 SELECTOR-206;1 SELECTOR-207;1 SELECTOR-208;1 SELECTOR-209",
     "1 SELECTOR-210;1 SELECTOR-211;1 SELECTOR-212;1 SELECTOR-213;1 SELECTOR-214",
     "1 SELECTOR-215;1 SELECTOR-216;1 SELECTOR-217;1 SELECTOR-218;1 SELECTOR-219",
     "1 SELECTOR-220;1 SELECTOR-221;1 SELECTOR-222;1 SELECTOR-223;1 SELECTOR-224",
     "1 SELECTOR-225;1 SELECTOR-226;1 SELECTOR-227;1 SELECTOR-228;1 SELECTOR-229",
     "1 SELECTOR-230;1 SELECTOR-231;1 SELECTOR-232;1 SELECTOR-233;1 SELECTOR-234",
     "1 SELECTOR-235;1 SELECTOR-236;1 SELECTOR-237;1 SELECTOR-238;1 SELECTOR-239",
     "1 SELECTOR-240;1 SELECTOR-241;1 SELECTOR-242;1 SELECTOR-243;1 SELECTOR-244",
     "1 SELECTOR-245;1 SELECTOR-246;1 SELECTOR-247;1 SELECTOR-248;1 SELECTOR-249",
     "1 SELECTOR-250;1 SELECTOR-251;1 SELECTOR-252;1 SELECTOR-253;1 SELECTOR-254",
     "1 SELECTOR-255;1 SELECTOR-256"])]

end SchemaAlgebra.Text.CharacterName
