import SourceAtlas.Unicode.Names.Row

/-!
Names of the further characters of the basic plane, from U+A000 on.
-/

namespace SourceAtlas.Unicode

/-- The names from U+A000 on. -/
def namesA000 : List NameRow := [
  (0xA000, "YI SYLLABLE ", "IT;IX;I;IP;IET;IEX;IE;IEP;AT;AX;A;AP;UOX;UO;UOP;OT;OX;O;OP;EX;E;WU;BIT;BIX;BI;BIP;BIET"),
  (0xA01B, "YI SYLLABLE ", "BIEX;BIE;BIEP;BAT;BAX;BA;BAP;BUOX;BUO;BUOP;BOT;BOX;BO;BOP;BEX;BE;BEP;BUT;BUX;BU;BUP"),
  (0xA030, "YI SYLLABLE ", "BURX;BUR;BYT;BYX;BY;BYP;BYRX;BYR;PIT;PIX;PI;PIP;PIEX;PIE;PIEP;PAT;PAX;PA;PAP;PUOX;PUO"),
  (0xA045, "YI SYLLABLE ", "PUOP;POT;POX;PO;POP;PUT;PUX;PU;PUP;PURX;PUR;PYT;PYX;PY;PYP;PYRX;PYR;BBIT;BBIX;BBI;BBIP"),
  (0xA05A, "YI SYLLABLE ", "BBIET;BBIEX;BBIE;BBIEP;BBAT;BBAX;BBA;BBAP;BBUOX;BBUO;BBUOP;BBOT;BBOX;BBO;BBOP;BBEX;BBE"),
  (0xA06B, "YI SYLLABLE ", "BBEP;BBUT;BBUX;BBU;BBUP;BBURX;BBUR;BBYT;BBYX;BBY;BBYP;NBIT;NBIX;NBI;NBIP;NBIEX;NBIE"),
  (0xA07C, "YI SYLLABLE ", "NBIEP;NBAT;NBAX;NBA;NBAP;NBOT;NBOX;NBO;NBOP;NBUT;NBUX;NBU;NBUP;NBURX;NBUR;NBYT;NBYX;NBY"),
  (0xA08E, "YI SYLLABLE ", "NBYP;NBYRX;NBYR;HMIT;HMIX;HMI;HMIP;HMIEX;HMIE;HMIEP;HMAT;HMAX;HMA;HMAP;HMUOX;HMUO;HMUOP"),
  (0xA09F, "YI SYLLABLE ", "HMOT;HMOX;HMO;HMOP;HMUT;HMUX;HMU;HMUP;HMURX;HMUR;HMYX;HMY;HMYP;HMYRX;HMYR;MIT;MIX;MI"),
  (0xA0B1, "YI SYLLABLE ", "MIP;MIEX;MIE;MIEP;MAT;MAX;MA;MAP;MUOT;MUOX;MUO;MUOP;MOT;MOX;MO;MOP;MEX;ME;MUT;MUX;MU"),
  (0xA0C6, "YI SYLLABLE ", "MUP;MURX;MUR;MYT;MYX;MY;MYP;FIT;FIX;FI;FIP;FAT;FAX;FA;FAP;FOX;FO;FOP;FUT;FUX;FU;FUP"),
  (0xA0DC, "YI SYLLABLE ", "FURX;FUR;FYT;FYX;FY;FYP;VIT;VIX;VI;VIP;VIET;VIEX;VIE;VIEP;VAT;VAX;VA;VAP;VOT;VOX;VO;VOP"),
  (0xA0F2, "YI SYLLABLE ", "VEX;VEP;VUT;VUX;VU;VUP;VURX;VUR;VYT;VYX;VY;VYP;VYRX;VYR;DIT;DIX;DI;DIP;DIEX;DIE;DIEP"),
  (0xA107, "YI SYLLABLE ", "DAT;DAX;DA;DAP;DUOX;DUO;DOT;DOX;DO;DOP;DEX;DE;DEP;DUT;DUX;DU;DUP;DURX;DUR;TIT;TIX;TI"),
  (0xA11D, "YI SYLLABLE ", "TIP;TIEX;TIE;TIEP;TAT;TAX;TA;TAP;TUOT;TUOX;TUO;TUOP;TOT;TOX;TO;TOP;TEX;TE;TEP;TUT;TUX"),
  (0xA132, "YI SYLLABLE ", "TU;TUP;TURX;TUR;DDIT;DDIX;DDI;DDIP;DDIEX;DDIE;DDIEP;DDAT;DDAX;DDA;DDAP;DDUOX;DDUO;DDUOP"),
  (0xA144, "YI SYLLABLE ", "DDOT;DDOX;DDO;DDOP;DDEX;DDE;DDEP;DDUT;DDUX;DDU;DDUP;DDURX;DDUR;NDIT;NDIX;NDI;NDIP;NDIEX"),
  (0xA156, "YI SYLLABLE ", "NDIE;NDAT;NDAX;NDA;NDAP;NDOT;NDOX;NDO;NDOP;NDEX;NDE;NDEP;NDUT;NDUX;NDU;NDUP;NDURX;NDUR"),
  (0xA168, "YI SYLLABLE ", "HNIT;HNIX;HNI;HNIP;HNIET;HNIEX;HNIE;HNIEP;HNAT;HNAX;HNA;HNAP;HNUOX;HNUO;HNOT;HNOX;HNOP"),
  (0xA179, "YI SYLLABLE ", "HNEX;HNE;HNEP;HNUT;NIT;NIX;NI;NIP;NIEX;NIE;NIEP;NAX;NA;NAP;NUOX;NUO;NUOP;NOT;NOX;NO;NOP"),
  (0xA18E, "YI SYLLABLE ", "NEX;NE;NEP;NUT;NUX;NU;NUP;NURX;NUR;HLIT;HLIX;HLI;HLIP;HLIEX;HLIE;HLIEP;HLAT;HLAX;HLA"),
  (0xA1A1, "YI SYLLABLE ", "HLAP;HLUOX;HLUO;HLUOP;HLOX;HLO;HLOP;HLEX;HLE;HLEP;HLUT;HLUX;HLU;HLUP;HLURX;HLUR;HLYT"),
  (0xA1B2, "YI SYLLABLE ", "HLYX;HLY;HLYP;HLYRX;HLYR;LIT;LIX;LI;LIP;LIET;LIEX;LIE;LIEP;LAT;LAX;LA;LAP;LUOT;LUOX;LUO"),
  (0xA1C6, "YI SYLLABLE ", "LUOP;LOT;LOX;LO;LOP;LEX;LE;LEP;LUT;LUX;LU;LUP;LURX;LUR;LYT;LYX;LY;LYP;LYRX;LYR;GIT;GIX"),
  (0xA1DC, "YI SYLLABLE ", "GI;GIP;GIET;GIEX;GIE;GIEP;GAT;GAX;GA;GAP;GUOT;GUOX;GUO;GUOP;GOT;GOX;GO;GOP;GET;GEX;GE"),
  (0xA1F1, "YI SYLLABLE ", "GEP;GUT;GUX;GU;GUP;GURX;GUR;KIT;KIX;KI;KIP;KIEX;KIE;KIEP;KAT;KAX;KA;KAP;KUOX;KUO;KUOP"),
  (0xA206, "YI SYLLABLE ", "KOT;KOX;KO;KOP;KET;KEX;KE;KEP;KUT;KUX;KU;KUP;KURX;KUR;GGIT;GGIX;GGI;GGIEX;GGIE;GGIEP"),
  (0xA21A, "YI SYLLABLE ", "GGAT;GGAX;GGA;GGAP;GGUOT;GGUOX;GGUO;GGUOP;GGOT;GGOX;GGO;GGOP;GGET;GGEX;GGE;GGEP;GGUT"),
  (0xA22B, "YI SYLLABLE ", "GGUX;GGU;GGUP;GGURX;GGUR;MGIEX;MGIE;MGAT;MGAX;MGA;MGAP;MGUOX;MGUO;MGUOP;MGOT;MGOX;MGO"),
  (0xA23C, "YI SYLLABLE ", "MGOP;MGEX;MGE;MGEP;MGUT;MGUX;MGU;MGUP;MGURX;MGUR;HXIT;HXIX;HXI;HXIP;HXIET;HXIEX;HXIE"),
  (0xA24D, "YI SYLLABLE ", "HXIEP;HXAT;HXAX;HXA;HXAP;HXUOT;HXUOX;HXUO;HXUOP;HXOT;HXOX;HXO;HXOP;HXEX;HXE;HXEP;NGIEX"),
  (0xA25E, "YI SYLLABLE ", "NGIE;NGIEP;NGAT;NGAX;NGA;NGAP;NGUOT;NGUOX;NGUO;NGOT;NGOX;NGO;NGOP;NGEX;NGE;NGEP;HIT"),
  (0xA26F, "YI SYLLABLE ", "HIEX;HIE;HAT;HAX;HA;HAP;HUOT;HUOX;HUO;HUOP;HOT;HOX;HO;HOP;HEX;HE;HEP;WAT;WAX;WA;WAP"),
  (0xA284, "YI SYLLABLE ", "WUOX;WUO;WUOP;WOX;WO;WOP;WEX;WE;WEP;ZIT;ZIX;ZI;ZIP;ZIEX;ZIE;ZIEP;ZAT;ZAX;ZA;ZAP;ZUOX"),
  (0xA299, "YI SYLLABLE ", "ZUO;ZUOP;ZOT;ZOX;ZO;ZOP;ZEX;ZE;ZEP;ZUT;ZUX;ZU;ZUP;ZURX;ZUR;ZYT;ZYX;ZY;ZYP;ZYRX;ZYR;CIT"),
  (0xA2AF, "YI SYLLABLE ", "CIX;CI;CIP;CIET;CIEX;CIE;CIEP;CAT;CAX;CA;CAP;CUOX;CUO;CUOP;COT;COX;CO;COP;CEX;CE;CEP"),
  (0xA2C4, "YI SYLLABLE ", "CUT;CUX;CU;CUP;CURX;CUR;CYT;CYX;CY;CYP;CYRX;CYR;ZZIT;ZZIX;ZZI;ZZIP;ZZIET;ZZIEX;ZZIE"),
  (0xA2D7, "YI SYLLABLE ", "ZZIEP;ZZAT;ZZAX;ZZA;ZZAP;ZZOX;ZZO;ZZOP;ZZEX;ZZE;ZZEP;ZZUX;ZZU;ZZUP;ZZURX;ZZUR;ZZYT;ZZYX"),
  (0xA2E9, "YI SYLLABLE ", "ZZY;ZZYP;ZZYRX;ZZYR;NZIT;NZIX;NZI;NZIP;NZIEX;NZIE;NZIEP;NZAT;NZAX;NZA;NZAP;NZUOX;NZUO"),
  (0xA2FA, "YI SYLLABLE ", "NZOX;NZOP;NZEX;NZE;NZUX;NZU;NZUP;NZURX;NZUR;NZYT;NZYX;NZY;NZYP;NZYRX;NZYR;SIT;SIX;SI"),
  (0xA30C, "YI SYLLABLE ", "SIP;SIEX;SIE;SIEP;SAT;SAX;SA;SAP;SUOX;SUO;SUOP;SOT;SOX;SO;SOP;SEX;SE;SEP;SUT;SUX;SU;SUP"),
  (0xA322, "YI SYLLABLE ", "SURX;SUR;SYT;SYX;SY;SYP;SYRX;SYR;SSIT;SSIX;SSI;SSIP;SSIEX;SSIE;SSIEP;SSAT;SSAX;SSA;SSAP"),
  (0xA335, "YI SYLLABLE ", "SSOT;SSOX;SSO;SSOP;SSEX;SSE;SSEP;SSUT;SSUX;SSU;SSUP;SSYT;SSYX;SSY;SSYP;SSYRX;SSYR;ZHAT"),
  (0xA347, "YI SYLLABLE ", "ZHAX;ZHA;ZHAP;ZHUOX;ZHUO;ZHUOP;ZHOT;ZHOX;ZHO;ZHOP;ZHET;ZHEX;ZHE;ZHEP;ZHUT;ZHUX;ZHU;ZHUP"),
  (0xA359, "YI SYLLABLE ", "ZHURX;ZHUR;ZHYT;ZHYX;ZHY;ZHYP;ZHYRX;ZHYR;CHAT;CHAX;CHA;CHAP;CHUOT;CHUOX;CHUO;CHUOP;CHOT"),
  (0xA36A, "YI SYLLABLE ", "CHOX;CHO;CHOP;CHET;CHEX;CHE;CHEP;CHUX;CHU;CHUP;CHURX;CHUR;CHYT;CHYX;CHY;CHYP;CHYRX;CHYR"),
  (0xA37C, "YI SYLLABLE ", "RRAX;RRA;RRUOX;RRUO;RROT;RROX;RRO;RROP;RRET;RREX;RRE;RREP;RRUT;RRUX;RRU;RRUP;RRURX;RRUR"),
  (0xA38E, "YI SYLLABLE ", "RRYT;RRYX;RRY;RRYP;RRYRX;RRYR;NRAT;NRAX;NRA;NRAP;NROX;NRO;NROP;NRET;NREX;NRE;NREP;NRUT"),
  (0xA3A0, "YI SYLLABLE ", "NRUX;NRU;NRUP;NRURX;NRUR;NRYT;NRYX;NRY;NRYP;NRYRX;NRYR;SHAT;SHAX;SHA;SHAP;SHUOX;SHUO"),
  (0xA3B1, "YI SYLLABLE ", "SHUOP;SHOT;SHOX;SHO;SHOP;SHET;SHEX;SHE;SHEP;SHUT;SHUX;SHU;SHUP;SHURX;SHUR;SHYT;SHYX;SHY"),
  (0xA3C3, "YI SYLLABLE ", "SHYP;SHYRX;SHYR;RAT;RAX;RA;RAP;RUOX;RUO;RUOP;ROT;ROX;RO;ROP;REX;RE;REP;RUT;RUX;RU;RUP"),
  (0xA3D8, "YI SYLLABLE ", "RURX;RUR;RYT;RYX;RY;RYP;RYRX;RYR;JIT;JIX;JI;JIP;JIET;JIEX;JIE;JIEP;JUOT;JUOX;JUO;JUOP"),
  (0xA3EC, "YI SYLLABLE ", "JOT;JOX;JO;JOP;JUT;JUX;JU;JUP;JURX;JUR;JYT;JYX;JY;JYP;JYRX;JYR;QIT;QIX;QI;QIP;QIET;QIEX"),
  (0xA402, "YI SYLLABLE ", "QIE;QIEP;QUOT;QUOX;QUO;QUOP;QOT;QOX;QO;QOP;QUT;QUX;QU;QUP;QURX;QUR;QYT;QYX;QY;QYP;QYRX"),
  (0xA417, "YI SYLLABLE ", "QYR;JJIT;JJIX;JJI;JJIP;JJIET;JJIEX;JJIE;JJIEP;JJUOX;JJUO;JJUOP;JJOT;JJOX;JJO;JJOP;JJUT"),
  (0xA428, "YI SYLLABLE ", "JJUX;JJU;JJUP;JJURX;JJUR;JJYT;JJYX;JJY;JJYP;NJIT;NJIX;NJI;NJIP;NJIET;NJIEX;NJIE;NJIEP"),
  (0xA439, "YI SYLLABLE ", "NJUOX;NJUO;NJOT;NJOX;NJO;NJOP;NJUX;NJU;NJUP;NJURX;NJUR;NJYT;NJYX;NJY;NJYP;NJYRX;NJYR"),
  (0xA44A, "YI SYLLABLE ", "NYIT;NYIX;NYI;NYIP;NYIET;NYIEX;NYIE;NYIEP;NYUOX;NYUO;NYUOP;NYOT;NYOX;NYO;NYOP;NYUT;NYUX"),
  (0xA45B, "YI SYLLABLE ", "NYU;NYUP;XIT;XIX;XI;XIP;XIET;XIEX;XIE;XIEP;XUOX;XUO;XOT;XOX;XO;XOP;XYT;XYX;XY;XYP;XYRX"),
  (0xA470, "YI SYLLABLE ", "XYR;YIT;YIX;YI;YIP;YIET;YIEX;YIE;YIEP;YUOT;YUOX;YUO;YUOP;YOT;YOX;YO;YOP;YUT;YUX;YU;YUP"),
  (0xA485, "YI SYLLABLE ", "YURX;YUR;YYT;YYX;YY;YYP;YYRX;YYR"),
  (0xA490, "YI RADICAL ", "QOT;LI;KIT;NYIP;CYP;SSI;GGOP;GEP;MI;HXIT;LYR;BBUT;MOP;YO;PUT;HXUO;TAT;GA;ZUP;CYT;DDUR"),
  (0xA4A5, "YI RADICAL ", "BUR;GGUO;NYOP;TU;OP;JJUT;ZOT;PYT;HMO;YIT;VUR;SHY;VEP;ZA;JO;NZUP;JJY;GOT;JJIE;WO;DU;SHUR"),
  (0xA4BB, "YI RADICAL ", "LIE;CY;CUOP;CIP;HXOP;SHAT;ZUR;SHOP;CHE;ZZIET;NBIE;KE"),
  (0xA4D0, "LISU LETTER ", "BA;PA;PHA;DA;TA;THA;GA;KA;KHA;JA;CA;CHA;DZA;TSA;TSHA;MA;NA;LA;SA;ZHA;ZA;NGA;HA;XA;HHA"),
  (0xA4E9, "LISU LETTER ", "FA;WA;SHA;YA;GHA;A;AE;E;EU;I;O;U;UE;UH;OE;TONE MYA TI;TONE NA PO"),
  (0xA4FA, "LISU LETTER TONE MYA ", "CYA;BO;NA;JEU"), (0xA4FE, "LISU PUNCTUATION ", "COMMA;FULL STOP"),
  (0xA500, "VAI SYLLABLE ", "EE;EEN;HEE;WEE;WEEN;PEE;BHEE;BEE;MBEE;KPEE;MGBEE;GBEE;FEE;VEE;TEE;THEE;DHEE;DHHEE;LEE"),
  (0xA513, "VAI SYLLABLE ", "REE;DEE;NDEE;SEE;SHEE;ZEE;ZHEE;CEE;JEE;NJEE;YEE;KEE;NGGEE;GEE;MEE;NEE;NYEE;I;IN;HI;HIN"),
  (0xA528, "VAI SYLLABLE ", "WI;WIN;PI;BHI;BI;MBI;KPI;MGBI;GBI;FI;VI;TI;THI;DHI;DHHI;LI;RI;DI;NDI;SI;SHI;ZI;ZHI;CI"),
  (0xA540, "VAI SYLLABLE ", "JI;NJI;YI;KI;NGGI;GI;MI;NI;NYI;A;AN;NGAN;HA;HAN;WA;WAN;PA;BHA;BA;MBA;KPA;KPAN;MGBA;GBA"),
  (0xA558, "VAI SYLLABLE ", "FA;VA;TA;THA;DHA;DHHA;LA;RA;DA;NDA;SA;SHA;ZA;ZHA;CA;JA;NJA;YA;KA;KAN;NGGA;GA;MA;NA;NYA"),
  (0xA571, "VAI SYLLABLE ", "OO;OON;HOO;WOO;WOON;POO;BHOO;BOO;MBOO;KPOO;MGBOO;GBOO;FOO;VOO;TOO;THOO;DHOO;DHHOO;LOO"),
  (0xA584, "VAI SYLLABLE ", "ROO;DOO;NDOO;SOO;SHOO;ZOO;ZHOO;COO;JOO;NJOO;YOO;KOO;NGGOO;GOO;MOO;NOO;NYOO;U;UN;HU;HUN"),
  (0xA599, "VAI SYLLABLE ", "WU;WUN;PU;BHU;BU;MBU;KPU;MGBU;GBU;FU;VU;TU;THU;DHU;DHHU;LU;RU;DU;NDU;SU;SHU;ZU;ZHU;CU"),
  (0xA5B1, "VAI SYLLABLE ", "JU;NJU;YU;KU;NGGU;GU;MU;NU;NYU;O;ON;NGON;HO;HON;WO;WON;PO;BHO;BO;MBO;KPO;MGBO;GBO;GBON"),
  (0xA5C9, "VAI SYLLABLE ", "FO;VO;TO;THO;DHO;DHHO;LO;RO;DO;NDO;SO;SHO;ZO;ZHO;CO;JO;NJO;YO;KO;NGGO;GO;MO;NO;NYO;E"),
  (0xA5E2, "VAI SYLLABLE ", "EN;NGEN;HE;HEN;WE;WEN;PE;BHE;BE;MBE;KPE;KPEN;MGBE;GBE;GBEN;FE;VE;TE;THE;DHE;DHHE;LE;RE"),
  (0xA5F9, "VAI SYLLABLE ", "DE;NDE;SE;SHE;ZE;ZHE;CE;JE;NJE;YE;KE;NGGE;NGGEN;GE;GEN;ME;NE;NYE;NG;LENGTHENER"),
  (0xA60D, "VAI ", "COMMA;FULL STOP;QUESTION MARK"), (0xA610, "VAI SYLLABLE NDOLE ", "FA;KA;SOO"),
  (0xA613, "VAI SYMBOL ", "FEENG;KEENG;TING;NII;BANG;FAA;TAA;DANG;DOONG;KUNG;TONG;DO-O;JONG"),
  (0xA620, "VAI DIGIT ", "ZERO;ONE;TWO;THREE;FOUR;FIVE;SIX;SEVEN;EIGHT;NINE"), (0xA62A, "VAI SYLLABLE NDOLE ", "MA;DO"),
  (0xA640, "CYRILLIC ", "CAPITAL LETTER ZEMLYA;SMALL LETTER ZEMLYA;CAPITAL LETTER DZELO;SMALL LETTER DZELO"),
  (0xA644, "CYRILLIC ", "CAPITAL LETTER REVERSED DZE;SMALL LETTER REVERSED DZE;CAPITAL LETTER IOTA"),
  (0xA647, "CYRILLIC ", "SMALL LETTER IOTA;CAPITAL LETTER DJERV;SMALL LETTER DJERV;CAPITAL LETTER MONOGRAPH UK"),
  (0xA64B, "CYRILLIC ", "SMALL LETTER MONOGRAPH UK;CAPITAL LETTER BROAD OMEGA;SMALL LETTER BROAD OMEGA"),
  (0xA64E, "CYRILLIC ", "CAPITAL LETTER NEUTRAL YER;SMALL LETTER NEUTRAL YER;CAPITAL LETTER YERU WITH BACK YER"),
  (0xA651, "CYRILLIC ", "SMALL LETTER YERU WITH BACK YER;CAPITAL LETTER IOTIFIED YAT;SMALL LETTER IOTIFIED YAT"),
  (0xA654, "CYRILLIC ", "CAPITAL LETTER REVERSED YU;SMALL LETTER REVERSED YU;CAPITAL LETTER IOTIFIED A"),
  (0xA657, "CYRILLIC ", "SMALL LETTER IOTIFIED A;CAPITAL LETTER CLOSED LITTLE YUS;SMALL LETTER CLOSED LITTLE YUS"),
  (0xA65A, "CYRILLIC ", "CAPITAL LETTER BLENDED YUS;SMALL LETTER BLENDED YUS"),
  (0xA65C, "CYRILLIC ", "CAPITAL LETTER IOTIFIED CLOSED LITTLE YUS;SMALL LETTER IOTIFIED CLOSED LITTLE YUS"),
  (0xA65E, "CYRILLIC ", "CAPITAL LETTER YN;SMALL LETTER YN;CAPITAL LETTER REVERSED TSE;SMALL LETTER REVERSED TSE"),
  (0xA662, "CYRILLIC ", "CAPITAL LETTER SOFT DE;SMALL LETTER SOFT DE;CAPITAL LETTER SOFT EL;SMALL LETTER SOFT EL"),
  (0xA666, "CYRILLIC ", "CAPITAL LETTER SOFT EM;SMALL LETTER SOFT EM;CAPITAL LETTER MONOCULAR O"),
  (0xA669, "CYRILLIC ", "SMALL LETTER MONOCULAR O;CAPITAL LETTER BINOCULAR O;SMALL LETTER BINOCULAR O"),
  (0xA66C, "CYRILLIC ", "CAPITAL LETTER DOUBLE MONOCULAR O;SMALL LETTER DOUBLE MONOCULAR O;LETTER MULTIOCULAR O")]

/-- The names from U+A66F on. -/
def namesA66F : List NameRow := [
  (0xA66F, "COMBINING CYRILLIC ", "VZMET;TEN MILLIONS SIGN;HUNDRED MILLIONS SIGN;THOUSAND MILLIONS SIGN"),
  (0xA673, "SLAVONIC ", "ASTERISK"),
  (0xA674, "COMBINING CYRILLIC LETTER ", "UKRAINIAN IE;I;YI;U;HARD SIGN;YERU;SOFT SIGN;OMEGA"),
  (0xA67C, "COMBINING CYRILLIC ", "KAVYKA;PAYEROK"),
  (0xA67E, "CYRILLIC ", "KAVYKA;PAYEROK;CAPITAL LETTER DWE;SMALL LETTER DWE;CAPITAL LETTER DZWE;SMALL LETTER DZWE"),
  (0xA684, "CYRILLIC ", "CAPITAL LETTER ZHWE;SMALL LETTER ZHWE;CAPITAL LETTER CCHE;SMALL LETTER CCHE"),
  (0xA688, "CYRILLIC ", "CAPITAL LETTER DZZE;SMALL LETTER DZZE;CAPITAL LETTER TE WITH MIDDLE HOOK"),
  (0xA68B, "CYRILLIC ", "SMALL LETTER TE WITH MIDDLE HOOK;CAPITAL LETTER TWE;SMALL LETTER TWE;CAPITAL LETTER TSWE"),
  (0xA68F, "CYRILLIC ", "SMALL LETTER TSWE;CAPITAL LETTER TSSE;SMALL LETTER TSSE;CAPITAL LETTER TCHE"),
  (0xA693, "CYRILLIC ", "SMALL LETTER TCHE;CAPITAL LETTER HWE;SMALL LETTER HWE;CAPITAL LETTER SHWE"),
  (0xA697, "CYRILLIC ", "SMALL LETTER SHWE;CAPITAL LETTER DOUBLE O;SMALL LETTER DOUBLE O;CAPITAL LETTER CROSSED O"),
  (0xA69B, "CYRILLIC SMALL LETTER CROSSED ", "O"), (0xA69C, "MODIFIER LETTER CYRILLIC ", "HARD SIGN;SOFT SIGN"),
  (0xA69E, "COMBINING CYRILLIC LETTER ", "EF;IOTIFIED E"),
  (0xA6A0, "BAMUM LETTER ", "A;KA;U;KU;EE;REE;TAE;O;NYI;I;LA;PA;RII;RIEE;LEEEE;MEEEE;TAA;NDAA;NJAEM;M;SUU;MU;SHII"),
  (0xA6B7, "BAMUM LETTER ", "SI;SHEUX;SEUX;KYEE;KET;NUAE;NU;NJUAE;YOQ;SHU;YUQ;YA;NSHA;KEUX;PEUX;NJEE;NTEE;PUE;WUE"),
  (0xA6CA, "BAMUM LETTER ", "PEE;FEE;RU;LU;MI;NI;REUX;RAE;KEN;NGKWAEN;NGGA;NGA;SHO;PUAE;FU;FOM;WA;NA;LI;PI;LOQ;KO"),
  (0xA6E0, "BAMUM LETTER ", "MBEN;REN;MEN;MA;TI;KI;MO;MBAA;TET;KPA;TEN;NTUU;SAMBA;FAAMAE;KOVUU;KOGHOM"),
  (0xA6F0, "BAMUM COMBINING MARK ", "KOQNDON;TUKWENTIS"),
  (0xA6F2, "BAMUM ", "NJAEMLI;FULL STOP;COLON;COMMA;SEMICOLON;QUESTION MARK"),
  (0xA700, "MODIFIER LETTER CHINESE TONE ", "YIN PING;YANG PING;YIN SHANG;YANG SHANG;YIN QU;YANG QU;YIN RU;YANG RU"),
  (0xA708, "MODIFIER LETTER ", "EXTRA-HIGH DOTTED TONE BAR;HIGH DOTTED TONE BAR;MID DOTTED TONE BAR"),
  (0xA70B, "MODIFIER LETTER ", "LOW DOTTED TONE BAR;EXTRA-LOW DOTTED TONE BAR;EXTRA-HIGH DOTTED LEFT-STEM TONE BAR"),
  (0xA70E, "MODIFIER LETTER ", "HIGH DOTTED LEFT-STEM TONE BAR;MID DOTTED LEFT-STEM TONE BAR"),
  (0xA710, "MODIFIER LETTER ", "LOW DOTTED LEFT-STEM TONE BAR;EXTRA-LOW DOTTED LEFT-STEM TONE BAR"),
  (0xA712, "MODIFIER LETTER ", "EXTRA-HIGH LEFT-STEM TONE BAR;HIGH LEFT-STEM TONE BAR;MID LEFT-STEM TONE BAR"),
  (0xA715, "MODIFIER LETTER ", "LOW LEFT-STEM TONE BAR;EXTRA-LOW LEFT-STEM TONE BAR;DOT VERTICAL BAR;DOT SLASH"),
  (0xA719, "MODIFIER LETTER ", "DOT HORIZONTAL BAR;LOWER RIGHT CORNER ANGLE"),
  (0xA71B, "MODIFIER LETTER RAISED ", "UP ARROW;DOWN ARROW;EXCLAMATION MARK;INVERTED EXCLAMATION MARK"),
  (0xA71F, "MODIFIER LETTER ", "LOW INVERTED EXCLAMATION MARK;STRESS AND HIGH TONE;STRESS AND LOW TONE"),
  (0xA722, "LATIN ", "CAPITAL LETTER EGYPTOLOGICAL ALEF;SMALL LETTER EGYPTOLOGICAL ALEF"),
  (0xA724, "LATIN ", "CAPITAL LETTER EGYPTOLOGICAL AIN;SMALL LETTER EGYPTOLOGICAL AIN;CAPITAL LETTER HENG"),
  (0xA727, "LATIN ", "SMALL LETTER HENG;CAPITAL LETTER TZ;SMALL LETTER TZ;CAPITAL LETTER TRESILLO"),
  (0xA72B, "LATIN ", "SMALL LETTER TRESILLO;CAPITAL LETTER CUATRILLO;SMALL LETTER CUATRILLO"),
  (0xA72E, "LATIN ", "CAPITAL LETTER CUATRILLO WITH COMMA;SMALL LETTER CUATRILLO WITH COMMA;LETTER SMALL CAPITAL F"),
  (0xA731, "LATIN ", "LETTER SMALL CAPITAL S;CAPITAL LETTER AA;SMALL LETTER AA;CAPITAL LETTER AO;SMALL LETTER AO"),
  (0xA736, "LATIN ", "CAPITAL LETTER AU;SMALL LETTER AU;CAPITAL LETTER AV;SMALL LETTER AV"),
  (0xA73A, "LATIN ", "CAPITAL LETTER AV WITH HORIZONTAL BAR;SMALL LETTER AV WITH HORIZONTAL BAR;CAPITAL LETTER AY"),
  (0xA73D, "LATIN ", "SMALL LETTER AY;CAPITAL LETTER REVERSED C WITH DOT;SMALL LETTER REVERSED C WITH DOT"),
  (0xA740, "LATIN ", "CAPITAL LETTER K WITH STROKE;SMALL LETTER K WITH STROKE;CAPITAL LETTER K WITH DIAGONAL STROKE"),
  (0xA743, "LATIN ", "SMALL LETTER K WITH DIAGONAL STROKE;CAPITAL LETTER K WITH STROKE AND DIAGONAL STROKE"),
  (0xA745, "LATIN ", "SMALL LETTER K WITH STROKE AND DIAGONAL STROKE;CAPITAL LETTER BROKEN L;SMALL LETTER BROKEN L"),
  (0xA748, "LATIN ", "CAPITAL LETTER L WITH HIGH STROKE;SMALL LETTER L WITH HIGH STROKE"),
  (0xA74A, "LATIN ", "CAPITAL LETTER O WITH LONG STROKE OVERLAY;SMALL LETTER O WITH LONG STROKE OVERLAY"),
  (0xA74C, "LATIN ", "CAPITAL LETTER O WITH LOOP;SMALL LETTER O WITH LOOP;CAPITAL LETTER OO;SMALL LETTER OO"),
  (0xA750, "LATIN ", "CAPITAL LETTER P WITH STROKE THROUGH DESCENDER;SMALL LETTER P WITH STROKE THROUGH DESCENDER"),
  (0xA752, "LATIN ", "CAPITAL LETTER P WITH FLOURISH;SMALL LETTER P WITH FLOURISH"),
  (0xA754, "LATIN ", "CAPITAL LETTER P WITH SQUIRREL TAIL;SMALL LETTER P WITH SQUIRREL TAIL"),
  (0xA756, "LATIN ", "CAPITAL LETTER Q WITH STROKE THROUGH DESCENDER;SMALL LETTER Q WITH STROKE THROUGH DESCENDER"),
  (0xA758, "LATIN ", "CAPITAL LETTER Q WITH DIAGONAL STROKE;SMALL LETTER Q WITH DIAGONAL STROKE"),
  (0xA75A, "LATIN ", "CAPITAL LETTER R ROTUNDA;SMALL LETTER R ROTUNDA;CAPITAL LETTER RUM ROTUNDA"),
  (0xA75D, "LATIN ", "SMALL LETTER RUM ROTUNDA;CAPITAL LETTER V WITH DIAGONAL STROKE"),
  (0xA75F, "LATIN ", "SMALL LETTER V WITH DIAGONAL STROKE;CAPITAL LETTER VY;SMALL LETTER VY"),
  (0xA762, "LATIN ", "CAPITAL LETTER VISIGOTHIC Z;SMALL LETTER VISIGOTHIC Z;CAPITAL LETTER THORN WITH STROKE"),
  (0xA765, "LATIN ", "SMALL LETTER THORN WITH STROKE;CAPITAL LETTER THORN WITH STROKE THROUGH DESCENDER"),
  (0xA767, "LATIN ", "SMALL LETTER THORN WITH STROKE THROUGH DESCENDER;CAPITAL LETTER VEND;SMALL LETTER VEND"),
  (0xA76A, "LATIN ", "CAPITAL LETTER ET;SMALL LETTER ET;CAPITAL LETTER IS;SMALL LETTER IS;CAPITAL LETTER CON"),
  (0xA76F, "", "LATIN SMALL LETTER CON;MODIFIER LETTER US"), (0xA771, "LATIN SMALL LETTER ", "DUM;LUM;MUM;NUM;RUM"),
  (0xA776, "LATIN ", "LETTER SMALL CAPITAL RUM;SMALL LETTER TUM;SMALL LETTER UM;CAPITAL LETTER INSULAR D"),
  (0xA77A, "LATIN ", "SMALL LETTER INSULAR D;CAPITAL LETTER INSULAR F;SMALL LETTER INSULAR F"),
  (0xA77D, "LATIN CAPITAL LETTER ", "INSULAR G;TURNED INSULAR G"),
  (0xA77F, "LATIN ", "SMALL LETTER TURNED INSULAR G;CAPITAL LETTER TURNED L;SMALL LETTER TURNED L"),
  (0xA782, "LATIN ", "CAPITAL LETTER INSULAR R;SMALL LETTER INSULAR R;CAPITAL LETTER INSULAR S"),
  (0xA785, "LATIN ", "SMALL LETTER INSULAR S;CAPITAL LETTER INSULAR T;SMALL LETTER INSULAR T"),
  (0xA788, "MODIFIER LETTER ", "LOW CIRCUMFLEX ACCENT;COLON;SHORT EQUALS SIGN"),
  (0xA78B, "LATIN ", "CAPITAL LETTER SALTILLO;SMALL LETTER SALTILLO;CAPITAL LETTER TURNED H"),
  (0xA78E, "LATIN ", "SMALL LETTER L WITH RETROFLEX HOOK AND BELT;LETTER SINOLOGICAL DOT"),
  (0xA790, "LATIN ", "CAPITAL LETTER N WITH DESCENDER;SMALL LETTER N WITH DESCENDER;CAPITAL LETTER C WITH BAR"),
  (0xA793, "LATIN SMALL LETTER ", "C WITH BAR;C WITH PALATAL HOOK;H WITH PALATAL HOOK"),
  (0xA796, "LATIN ", "CAPITAL LETTER B WITH FLOURISH;SMALL LETTER B WITH FLOURISH;CAPITAL LETTER F WITH STROKE"),
  (0xA799, "LATIN ", "SMALL LETTER F WITH STROKE;CAPITAL LETTER VOLAPUK AE;SMALL LETTER VOLAPUK AE"),
  (0xA79C, "LATIN ", "CAPITAL LETTER VOLAPUK OE;SMALL LETTER VOLAPUK OE;CAPITAL LETTER VOLAPUK UE"),
  (0xA79F, "LATIN ", "SMALL LETTER VOLAPUK UE;CAPITAL LETTER G WITH OBLIQUE STROKE"),
  (0xA7A1, "LATIN ", "SMALL LETTER G WITH OBLIQUE STROKE;CAPITAL LETTER K WITH OBLIQUE STROKE"),
  (0xA7A3, "LATIN ", "SMALL LETTER K WITH OBLIQUE STROKE;CAPITAL LETTER N WITH OBLIQUE STROKE"),
  (0xA7A5, "LATIN ", "SMALL LETTER N WITH OBLIQUE STROKE;CAPITAL LETTER R WITH OBLIQUE STROKE"),
  (0xA7A7, "LATIN ", "SMALL LETTER R WITH OBLIQUE STROKE;CAPITAL LETTER S WITH OBLIQUE STROKE"),
  (0xA7A9, "LATIN SMALL LETTER S WITH OBLIQUE ", "STROKE"),
  (0xA7AA, "LATIN CAPITAL LETTER ", "H WITH HOOK;REVERSED OPEN E;SCRIPT G;L WITH BELT;SMALL CAPITAL I"),
  (0xA7AF, "LATIN LETTER SMALL CAPITAL ", "Q"),
  (0xA7B0, "LATIN CAPITAL LETTER ", "TURNED K;TURNED T;J WITH CROSSED-TAIL;CHI;BETA"),
  (0xA7B5, "LATIN ", "SMALL LETTER BETA;CAPITAL LETTER OMEGA;SMALL LETTER OMEGA;CAPITAL LETTER U WITH STROKE"),
  (0xA7B9, "LATIN ", "SMALL LETTER U WITH STROKE;CAPITAL LETTER GLOTTAL A;SMALL LETTER GLOTTAL A"),
  (0xA7BC, "LATIN ", "CAPITAL LETTER GLOTTAL I;SMALL LETTER GLOTTAL I;CAPITAL LETTER GLOTTAL U"),
  (0xA7BF, "LATIN ", "SMALL LETTER GLOTTAL U;CAPITAL LETTER OLD POLISH O;SMALL LETTER OLD POLISH O"),
  (0xA7C2, "LATIN ", "CAPITAL LETTER ANGLICANA W;SMALL LETTER ANGLICANA W;CAPITAL LETTER C WITH PALATAL HOOK"),
  (0xA7C5, "LATIN CAPITAL LETTER ", "S WITH HOOK;Z WITH PALATAL HOOK;D WITH SHORT STROKE OVERLAY"),
  (0xA7C8, "LATIN ", "SMALL LETTER D WITH SHORT STROKE OVERLAY;CAPITAL LETTER S WITH SHORT STROKE OVERLAY"),
  (0xA7CA, "LATIN SMALL LETTER S WITH SHORT STROKE ", "OVERLAY"),
  (0xA7D0, "LATIN ", "CAPITAL LETTER CLOSED INSULAR G;SMALL LETTER CLOSED INSULAR G"),
  (0xA7D3, "LATIN SMALL LETTER DOUBLE ", "THORN"),
  (0xA7D5, "LATIN ", "SMALL LETTER DOUBLE WYNN;CAPITAL LETTER MIDDLE SCOTS S;SMALL LETTER MIDDLE SCOTS S"),
  (0xA7D8, "LATIN ", "CAPITAL LETTER SIGMOID S;SMALL LETTER SIGMOID S"), (0xA7F2, "MODIFIER LETTER CAPITAL ", "C;F;Q"),
  (0xA7F5, "LATIN ", "CAPITAL LETTER REVERSED HALF H;SMALL LETTER REVERSED HALF H;EPIGRAPHIC LETTER SIDEWAYS I"),
  (0xA7F8, "MODIFIER LETTER ", "CAPITAL H WITH STROKE;SMALL LIGATURE OE"),
  (0xA7FA, "LATIN LETTER SMALL CAPITAL TURNED ", "M"),
  (0xA7FB, "LATIN EPIGRAPHIC LETTER ", "REVERSED F;REVERSED P;INVERTED M;I LONGA;ARCHAIC M"),
  (0xA800, "SYLOTI NAGRI ", "LETTER A;LETTER I;SIGN DVISVARA;LETTER U;LETTER E;LETTER O;SIGN HASANTA;LETTER KO")]

/-- The names from U+A808 on. -/
def namesA808 : List NameRow := [
  (0xA808, "SYLOTI NAGRI ", "LETTER KHO;LETTER GO;LETTER GHO;SIGN ANUSVARA;LETTER CO"),
  (0xA80D, "SYLOTI NAGRI LETTER ", "CHO;JO;JHO;TTO;TTHO;DDO;DDHO;TO;THO;DO;DHO;NO;PO;PHO;BO;BHO;MO;RO;LO;RRO;SO;HO"),
  (0xA823, "SYLOTI NAGRI VOWEL SIGN ", "A;I;U;E;OO"), (0xA828, "SYLOTI NAGRI POETRY MARK-", "1;2;3;4"),
  (0xA82C, "SYLOTI NAGRI SIGN ALTERNATE ", "HASANTA"),
  (0xA830, "NORTH INDIC FRACTION ", "ONE QUARTER;ONE HALF;THREE QUARTERS;ONE SIXTEENTH;ONE EIGHTH;THREE SIXTEENTHS"),
  (0xA836, "NORTH INDIC ", "QUARTER MARK;PLACEHOLDER MARK;RUPEE MARK;QUANTITY MARK"),
  (0xA840, "PHAGS-PA LETTER ", "KA;KHA;GA;NGA;CA;CHA;JA;NYA;TA;THA;DA;NA;PA;PHA;BA;MA;TSA;TSHA;DZA;WA;ZHA;ZA"),
  (0xA856, "PHAGS-PA LETTER ", "SMALL A;YA;RA;LA;SHA;SA;HA;A;I;U;E;O;QA;XA;FA;GGA;EE"),
  (0xA867, "PHAGS-PA SUBJOINED LETTER ", "WA;YA"),
  (0xA869, "PHAGS-PA LETTER ", "TTA;TTHA;DDA;NNA;ALTERNATE YA;VOICELESS SHA;VOICED HA;ASPIRATED FA"),
  (0xA871, "PHAGS-PA ", "SUBJOINED LETTER RA;SUPERFIXED LETTER RA;LETTER CANDRABINDU;SINGLE HEAD MARK"),
  (0xA875, "PHAGS-PA ", "DOUBLE HEAD MARK;MARK SHAD;MARK DOUBLE SHAD"),
  (0xA880, "SAURASHTRA SIGN ", "ANUSVARA;VISARGA"),
  (0xA882, "SAURASHTRA LETTER ", "A;AA;I;II;U;UU;VOCALIC R;VOCALIC RR;VOCALIC L;VOCALIC LL;E;EE;AI;O;OO;AU;KA;KHA"),
  (0xA894, "SAURASHTRA LETTER ", "GA;GHA;NGA;CA;CHA;JA;JHA;NYA;TTA;TTHA;DDA;DDHA;NNA;TA;THA;DA;DHA;NA;PA;PHA;BA;BHA"),
  (0xA8AA, "SAURASHTRA LETTER ", "MA;YA;RA;LA;VA;SHA;SSA;SA;HA;LLA"), (0xA8B4, "SAURASHTRA CONSONANT SIGN ", "HAARU"),
  (0xA8B5, "SAURASHTRA VOWEL SIGN ", "AA;I;II;U;UU;VOCALIC R;VOCALIC RR;VOCALIC L;VOCALIC LL;E;EE;AI;O;OO;AU"),
  (0xA8C4, "SAURASHTRA SIGN ", "VIRAMA;CANDRABINDU"), (0xA8CE, "SAURASHTRA ", "DANDA;DOUBLE DANDA"),
  (0xA8D0, "SAURASHTRA DIGIT ", "ZERO;ONE;TWO;THREE;FOUR;FIVE;SIX;SEVEN;EIGHT;NINE"),
  (0xA8E0, "COMBINING DEVANAGARI DIGIT ", "ZERO;ONE;TWO;THREE;FOUR;FIVE;SIX;SEVEN;EIGHT;NINE"),
  (0xA8EA, "COMBINING DEVANAGARI LETTER ", "A;U;KA;NA;PA;RA;VI"), (0xA8F1, "COMBINING DEVANAGARI SIGN ", "AVAGRAHA"),
  (0xA8F2, "DEVANAGARI SIGN ", "SPACING CANDRABINDU;CANDRABINDU VIRAMA;DOUBLE CANDRABINDU VIRAMA"),
  (0xA8F5, "DEVANAGARI SIGN CANDRABINDU ", "TWO;THREE;AVAGRAHA"),
  (0xA8F8, "DEVANAGARI ", "SIGN PUSHPIKA;GAP FILLER;CARET;HEADSTROKE;SIGN SIDDHAM;JAIN OM;LETTER AY;VOWEL SIGN AY"),
  (0xA900, "KAYAH LI DIGIT ", "ZERO;ONE;TWO;THREE;FOUR;FIVE;SIX;SEVEN;EIGHT;NINE"),
  (0xA90A, "KAYAH LI LETTER ", "KA;KHA;GA;NGA;SA;SHA;ZA;NYA;TA;HTA;NA;PA;PHA;MA;DA;BA;RA;YA;LA;WA;THA;HA;VA;CA;A;OE"),
  (0xA924, "KAYAH LI LETTER ", "I;OO"), (0xA926, "KAYAH LI VOWEL ", "UE;E;U;EE;O"),
  (0xA92B, "KAYAH LI ", "TONE PLOPHU;TONE CALYA;TONE CALYA PLOPHU;SIGN CWI;SIGN SHYA"),
  (0xA930, "REJANG LETTER ", "KA;GA;NGA;TA;DA;NA;PA;BA;MA;CA;JA;NYA;SA;RA;LA;YA;WA;HA;MBA;NGGA;NDA;NYJA;A"),
  (0xA947, "REJANG VOWEL SIGN ", "I;U;E;AI;O;AU;EU;EA"), (0xA94F, "REJANG CONSONANT SIGN ", "NG;N;R;H"),
  (0xA953, "REJANG ", "VIRAMA"), (0xA95F, "REJANG SECTION ", "MARK"),
  (0xA960, "HANGUL CHOSEONG TIKEUT-", "MIEUM;PIEUP;SIOS;CIEUC"),
  (0xA964, "HANGUL CHOSEONG RIEUL-", "KIYEOK;SSANGKIYEOK;TIKEUT;SSANGTIKEUT;MIEUM;PIEUP;SSANGPIEUP;KAPYEOUNPIEUP"),
  (0xA96C, "HANGUL CHOSEONG ", "RIEUL-SIOS;RIEUL-CIEUC;RIEUL-KHIEUKH;MIEUM-KIYEOK;MIEUM-TIKEUT;MIEUM-SIOS"),
  (0xA972, "HANGUL CHOSEONG ", "PIEUP-SIOS-THIEUTH;PIEUP-KHIEUKH;PIEUP-HIEUH;SSANGSIOS-PIEUP;IEUNG-RIEUL"),
  (0xA977, "HANGUL CHOSEONG ", "IEUNG-HIEUH;SSANGCIEUC-HIEUH;SSANGTHIEUTH;PHIEUPH-HIEUH;HIEUH-SIOS;SSANGYEORINHIEUH"),
  (0xA980, "JAVANESE SIGN ", "PANYANGGA;CECAK;LAYAR;WIGNYAN"),
  (0xA984, "JAVANESE LETTER ", "A;I KAWI;I;II;U;PA CEREK;NGA LELET;NGA LELET RASWADI;E;AI;O;KA;KA SASAK;KA MURDA;GA"),
  (0xA993, "JAVANESE LETTER ", "GA MURDA;NGA;CA;CA MURDA;JA;NYA MURDA;JA MAHAPRANA;NYA;TTA;TTA MAHAPRANA;DDA"),
  (0xA99E, "JAVANESE LETTER ", "DDA MAHAPRANA;NA MURDA;TA;TA MURDA;DA;DA MAHAPRANA;NA;PA;PA MURDA;BA;BA MURDA;MA;YA"),
  (0xA9AB, "JAVANESE LETTER ", "RA;RA AGUNG;LA;WA;SA MURDA;SA MAHAPRANA;SA;HA"),
  (0xA9B3, "JAVANESE SIGN CECAK ", "TELU"),
  (0xA9B4, "JAVANESE VOWEL SIGN ", "TARUNG;TOLONG;WULU;WULU MELIK;SUKU;SUKU MENDUT;TALING;DIRGA MURE;PEPET"),
  (0xA9BD, "JAVANESE CONSONANT SIGN ", "KERET;PENGKAL;CAKRA"),
  (0xA9C0, "JAVANESE ", "PANGKON;LEFT RERENGGAN;RIGHT RERENGGAN"),
  (0xA9C3, "JAVANESE PADA ", "ANDAP;MADYA;LUHUR;WINDU;PANGKAT;LINGSA;LUNGSI;ADEG;ADEG ADEG;PISELEH"),
  (0xA9CD, "JAVANESE TURNED PADA ", "PISELEH"), (0xA9CF, "JAVANESE ", "PANGRANGKEP"),
  (0xA9D0, "JAVANESE DIGIT ", "ZERO;ONE;TWO;THREE;FOUR;FIVE;SIX;SEVEN;EIGHT;NINE"),
  (0xA9DE, "JAVANESE PADA ", "TIRTA TUMETES;ISEN-ISEN"), (0xA9E0, "MYANMAR LETTER SHAN ", "GHA;CHA;JHA;NNA;BHA"),
  (0xA9E5, "MYANMAR ", "SIGN SHAN SAW;MODIFIER LETTER SHAN REDUPLICATION"),
  (0xA9E7, "MYANMAR LETTER TAI LAING ", "NYA;FA;GA;GHA;JA;JHA;DDA;DDHA;NNA"),
  (0xA9F0, "MYANMAR TAI LAING DIGIT ", "ZERO;ONE;TWO;THREE;FOUR;FIVE;SIX;SEVEN;EIGHT;NINE"),
  (0xA9FA, "MYANMAR LETTER TAI LAING ", "LLA;DA;DHA;BA;BHA"),
  (0xAA00, "CHAM LETTER ", "A;I;U;E;AI;O;KA;KHA;GA;GHA;NGUE;NGA;CHA;CHHA;JA;JHA;NHUE;NHA;NHJA;TA;THA;DA;DHA;NUE;NA"),
  (0xAA19, "CHAM LETTER ", "DDA;PA;PPA;PHA;BA;BHA;MUE;MA;BBA;YA;RA;LA;VA;SSA;SA;HA"),
  (0xAA29, "CHAM VOWEL SIGN ", "AA;I;II;EI;U;OE;O;AI;AU;UE"), (0xAA33, "CHAM CONSONANT SIGN ", "YA;RA;LA;WA"),
  (0xAA40, "CHAM LETTER FINAL ", "K;G;NG"), (0xAA43, "CHAM CONSONANT SIGN FINAL ", "NG"),
  (0xAA44, "CHAM LETTER FINAL ", "CH;T;N;P;Y;R;L;SS"), (0xAA4C, "CHAM CONSONANT SIGN FINAL ", "M;H"),
  (0xAA50, "CHAM DIGIT ", "ZERO;ONE;TWO;THREE;FOUR;FIVE;SIX;SEVEN;EIGHT;NINE"),
  (0xAA5C, "CHAM PUNCTUATION ", "SPIRAL;DANDA;DOUBLE DANDA;TRIPLE DANDA"),
  (0xAA60, "MYANMAR LETTER KHAMTI ", "GA;CA;CHA;JA;JHA;NYA;TTA;TTHA;DDA;DDHA;DHA;NA;SA;HA;HHA;FA"),
  (0xAA70, "MYANMAR MODIFIER LETTER KHAMTI ", "REDUPLICATION"), (0xAA71, "MYANMAR LETTER KHAMTI ", "XA;ZA;RA"),
  (0xAA74, "MYANMAR LOGOGRAM KHAMTI ", "OAY;QN;HM"), (0xAA77, "MYANMAR SYMBOL AITON ", "EXCLAMATION;ONE;TWO"),
  (0xAA7A, "MYANMAR ", "LETTER AITON RA;SIGN PAO KAREN TONE;SIGN TAI LAING TONE-2;SIGN TAI LAING TONE-5"),
  (0xAA7E, "MYANMAR LETTER SHWE PALAUNG ", "CHA;SHA"),
  (0xAA80, "TAI VIET LETTER ", "LOW KO;HIGH KO;LOW KHO;HIGH KHO;LOW KHHO;HIGH KHHO;LOW GO;HIGH GO;LOW NGO;HIGH NGO"),
  (0xAA8A, "TAI VIET LETTER ", "LOW CO;HIGH CO;LOW CHO;HIGH CHO;LOW SO;HIGH SO;LOW NYO;HIGH NYO;LOW DO;HIGH DO"),
  (0xAA94, "TAI VIET LETTER ", "LOW TO;HIGH TO;LOW THO;HIGH THO;LOW NO;HIGH NO;LOW BO;HIGH BO;LOW PO;HIGH PO"),
  (0xAA9E, "TAI VIET LETTER ", "LOW PHO;HIGH PHO;LOW FO;HIGH FO;LOW MO;HIGH MO;LOW YO;HIGH YO;LOW RO;HIGH RO;LOW LO"),
  (0xAAA9, "TAI VIET LETTER ", "HIGH LO;LOW VO;HIGH VO;LOW HO;HIGH HO;LOW O;HIGH O"),
  (0xAAB0, "TAI VIET ", "MAI KANG;VOWEL AA;VOWEL I;VOWEL UE;VOWEL U;VOWEL E;VOWEL O;MAI KHIT"),
  (0xAAB8, "TAI VIET VOWEL ", "IA;UEA;UA;AUE;AY;AN;AM"), (0xAABF, "TAI VIET TONE MAI ", "EK;NUENG;THO;SONG"),
  (0xAADB, "TAI VIET SYMBOL ", "KON;NUENG;SAM;HO HOI;KOI KOI"),
  (0xAAE0, "MEETEI MAYEK LETTER ", "E;O;CHA;NYA;TTA;TTHA;DDA;DDHA;NNA;SHA;SSA"),
  (0xAAEB, "MEETEI MAYEK VOWEL SIGN ", "II;UU;AAI;AU;AAU"),
  (0xAAF0, "MEETEI MAYEK ", "CHEIKHAN;AHANG KHUDAM;ANJI;SYLLABLE REPETITION MARK;WORD REPETITION MARK"),
  (0xAAF5, "MEETEI MAYEK ", "VOWEL SIGN VISARGA;VIRAMA"),
  (0xAB01, "ETHIOPIC SYLLABLE ", "TTHU;TTHI;TTHAA;TTHEE;TTHE;TTHO"),
  (0xAB09, "ETHIOPIC SYLLABLE ", "DDHU;DDHI;DDHAA;DDHEE;DDHE;DDHO"),
  (0xAB11, "ETHIOPIC SYLLABLE ", "DZU;DZI;DZAA;DZEE;DZE;DZO"),
  (0xAB20, "ETHIOPIC SYLLABLE ", "CCHHA;CCHHU;CCHHI;CCHHAA;CCHHEE;CCHHE;CCHHO"),
  (0xAB28, "ETHIOPIC SYLLABLE ", "BBA;BBU;BBI;BBAA;BBEE;BBE;BBO"),
  (0xAB30, "LATIN SMALL LETTER ", "BARRED ALPHA;A REVERSED-SCHWA;BLACKLETTER E;BARRED E;E WITH FLOURISH;LENIS F"),
  (0xAB36, "LATIN SMALL LETTER ", "SCRIPT G WITH CROSSED-TAIL;L WITH INVERTED LAZY S;L WITH DOUBLE MIDDLE TILDE"),
  (0xAB39, "LATIN SMALL LETTER ", "L WITH MIDDLE RING;M WITH CROSSED-TAIL;N WITH CROSSED-TAIL;ENG WITH CROSSED-TAIL")]

/-- The names from U+AB3D on. -/
def namesAB3D : List NameRow := [
  (0xAB3D, "LATIN SMALL LETTER ", "BLACKLETTER O;BLACKLETTER O WITH STROKE;OPEN O WITH STROKE;INVERTED OE"),
  (0xAB41, "LATIN SMALL LETTER TURNED ", "OE WITH STROKE;OE WITH HORIZONTAL STROKE;O OPEN-O;O OPEN-O WITH STROKE"),
  (0xAB45, "LATIN ", "SMALL LETTER STIRRUP R;LETTER SMALL CAPITAL R WITH RIGHT LEG"),
  (0xAB47, "LATIN SMALL LETTER ", "R WITHOUT HANDLE;DOUBLE R;R WITH CROSSED-TAIL;DOUBLE R WITH CROSSED-TAIL"),
  (0xAB4B, "LATIN SMALL LETTER ", "SCRIPT R;SCRIPT R WITH RING;BASELINE ESH;U WITH SHORT RIGHT LEG"),
  (0xAB4F, "LATIN SMALL LETTER ", "U BAR WITH SHORT RIGHT LEG;UI;TURNED UI;U WITH LEFT HOOK;CHI"),
  (0xAB54, "LATIN SMALL LETTER ", "CHI WITH LOW RIGHT RING;CHI WITH LOW LEFT SERIF;X WITH LOW RIGHT RING"),
  (0xAB57, "LATIN SMALL LETTER X WITH LONG LEFT ", "LEG;LEG AND LOW RIGHT RING;LEG WITH SERIF"),
  (0xAB5A, "", "LATIN SMALL LETTER Y WITH SHORT RIGHT LEG;MODIFIER BREVE WITH INVERTED BREVE"),
  (0xAB5C, "MODIFIER LETTER SMALL ", "HENG;L WITH INVERTED LAZY S;L WITH MIDDLE TILDE;U WITH LEFT HOOK"),
  (0xAB60, "LATIN SMALL LETTER ", "SAKHA YAT;IOTIFIED E;OPEN OE;UO;INVERTED ALPHA"),
  (0xAB65, "", "GREEK LETTER SMALL CAPITAL OMEGA;LATIN SMALL LETTER DZ DIGRAPH WITH RETROFLEX HOOK"),
  (0xAB67, "LATIN SMALL LETTER ", "TS DIGRAPH WITH RETROFLEX HOOK;TURNED R WITH MIDDLE TILDE"),
  (0xAB69, "MODIFIER LETTER ", "SMALL TURNED W;LEFT TACK;RIGHT TACK"),
  (0xAB70, "CHEROKEE SMALL LETTER ", "A;E;I;O;U;V;GA;KA;GE;GI;GO;GU;GV;HA;HE;HI;HO;HU;HV;LA;LE;LI;LO;LU;LV;MA;ME;MI"),
  (0xAB8C, "CHEROKEE SMALL LETTER ", "MO;MU;NA;HNA;NAH;NE;NI;NO;NU;NV;QUA;QUE;QUI;QUO;QUU;QUV;SA;S;SE;SI;SO;SU;SV"),
  (0xABA3, "CHEROKEE SMALL LETTER ", "DA;TA;DE;TE;DI;TI;DO;DU;DV;DLA;TLA;TLE;TLI;TLO;TLU;TLV;TSA;TSE;TSI;TSO;TSU"),
  (0xABB8, "CHEROKEE SMALL LETTER ", "TSV;WA;WE;WI;WO;WU;WV;YA"),
  (0xABC0, "MEETEI MAYEK LETTER ", "KOK;SAM;LAI;MIT;PA;NA;CHIL;TIL;KHOU;NGOU;THOU;WAI;YANG;HUK;UN;I;PHAM;ATIYA;GOK"),
  (0xABD3, "MEETEI MAYEK LETTER ", "JHAM;RAI;BA;JIL;DIL;GHOU;DHOU;BHAM;KOK LONSUM;LAI LONSUM;MIT LONSUM;PA LONSUM"),
  (0xABDF, "MEETEI MAYEK LETTER ", "NA LONSUM;TIL LONSUM;NGOU LONSUM;I LONSUM"),
  (0xABE3, "MEETEI MAYEK VOWEL SIGN ", "ONAP;INAP;ANAP;YENAP;SOUNAP;UNAP;CHEINAP;NUNG"),
  (0xABEB, "MEETEI MAYEK ", "CHEIKHEI;LUM IYEK;APUN IYEK"),
  (0xABF0, "MEETEI MAYEK DIGIT ", "ZERO;ONE;TWO;THREE;FOUR;FIVE;SIX;SEVEN;EIGHT;NINE"),
  (0xD7B0, "HANGUL JUNGSEONG ", "O-YEO;O-O-I;YO-A;YO-AE;YO-EO;U-YEO;U-I-I;YU-AE;YU-O;EU-A;EU-EO;EU-E;EU-O;I-YA-O"),
  (0xD7BE, "HANGUL JUNGSEONG ", "I-YAE;I-YEO;I-YE;I-O-I;I-YO;I-YU;I-I;ARAEA-A;ARAEA-E"),
  (0xD7CB, "HANGUL JONGSEONG ", "NIEUN-RIEUL;NIEUN-CHIEUCH;SSANGTIKEUT;SSANGTIKEUT-PIEUP"),
  (0xD7CF, "HANGUL JONGSEONG TIKEUT-", "PIEUP;SIOS;SIOS-KIYEOK;CIEUC;CHIEUCH;THIEUTH"),
  (0xD7D5, "HANGUL JONGSEONG ", "RIEUL-SSANGKIYEOK;RIEUL-KIYEOK-HIEUH;SSANGRIEUL-KHIEUKH"),
  (0xD7D8, "HANGUL JONGSEONG RIEUL-", "MIEUM-HIEUH;PIEUP-TIKEUT;PIEUP-PHIEUPH;YESIEUNG;YEORINHIEUH-HIEUH"),
  (0xD7DD, "HANGUL JONGSEONG ", "KAPYEOUNRIEUL;MIEUM-NIEUN;MIEUM-SSANGNIEUN;SSANGMIEUM;MIEUM-PIEUP-SIOS;MIEUM-CIEUC"),
  (0xD7E3, "HANGUL JONGSEONG ", "PIEUP-TIKEUT;PIEUP-RIEUL-PHIEUPH;PIEUP-MIEUM;SSANGPIEUP;PIEUP-SIOS-TIKEUT"),
  (0xD7E8, "HANGUL JONGSEONG ", "PIEUP-CIEUC;PIEUP-CHIEUCH;SIOS-MIEUM;SIOS-KAPYEOUNPIEUP;SSANGSIOS-KIYEOK"),
  (0xD7ED, "HANGUL JONGSEONG ", "SSANGSIOS-TIKEUT;SIOS-PANSIOS;SIOS-CIEUC;SIOS-CHIEUCH;SIOS-THIEUTH;SIOS-HIEUH"),
  (0xD7F3, "HANGUL JONGSEONG ", "PANSIOS-PIEUP;PANSIOS-KAPYEOUNPIEUP;YESIEUNG-MIEUM;YESIEUNG-HIEUH;CIEUC-PIEUP"),
  (0xD7F8, "HANGUL JONGSEONG ", "CIEUC-SSANGPIEUP;SSANGCIEUC;PHIEUPH-SIOS;PHIEUPH-THIEUTH"),
  (0xFB00, "LATIN SMALL LIGATURE ", "FF;FI;FL;FFI;FFL;LONG S T;ST"),
  (0xFB13, "ARMENIAN SMALL LIGATURE ", "MEN NOW;MEN ECH;MEN INI;VEW NOW;MEN XEH"),
  (0xFB1D, "HEBREW ", "LETTER YOD WITH HIRIQ;POINT JUDEO-SPANISH VARIKA;LIGATURE YIDDISH YOD YOD PATAH"),
  (0xFB20, "HEBREW LETTER ALTERNATIVE ", "AYIN"),
  (0xFB21, "HEBREW LETTER WIDE ", "ALEF;DALET;HE;KAF;LAMED;FINAL MEM;RESH;TAV"),
  (0xFB29, "HEBREW LETTER ALTERNATIVE PLUS ", "SIGN"),
  (0xFB2A, "HEBREW LETTER SHIN WITH ", "SHIN DOT;SIN DOT;DAGESH AND SHIN DOT;DAGESH AND SIN DOT"),
  (0xFB2E, "HEBREW LETTER ", "ALEF WITH PATAH;ALEF WITH QAMATS;ALEF WITH MAPIQ;BET WITH DAGESH;GIMEL WITH DAGESH"),
  (0xFB33, "HEBREW LETTER ", "DALET WITH DAGESH;HE WITH MAPIQ;VAV WITH DAGESH;ZAYIN WITH DAGESH"),
  (0xFB38, "HEBREW LETTER ", "TET WITH DAGESH;YOD WITH DAGESH;FINAL KAF WITH DAGESH;KAF WITH DAGESH"),
  (0xFB3C, "HEBREW LETTER LAMED WITH ", "DAGESH"), (0xFB3E, "HEBREW LETTER MEM WITH ", "DAGESH"),
  (0xFB40, "HEBREW LETTER ", "NUN WITH DAGESH;SAMEKH WITH DAGESH"),
  (0xFB43, "HEBREW LETTER ", "FINAL PE WITH DAGESH;PE WITH DAGESH"),
  (0xFB46, "HEBREW LETTER ", "TSADI WITH DAGESH;QOF WITH DAGESH;RESH WITH DAGESH;SHIN WITH DAGESH;TAV WITH DAGESH"),
  (0xFB4B, "HEBREW LETTER ", "VAV WITH HOLAM;BET WITH RAFE;KAF WITH RAFE;PE WITH RAFE"),
  (0xFB4F, "HEBREW LIGATURE ALEF ", "LAMED"), (0xFB50, "ARABIC LETTER ALEF WASLA ", "ISOLATED FORM;FINAL FORM"),
  (0xFB52, "ARABIC LETTER BEEH ", "ISOLATED FORM;FINAL FORM;INITIAL FORM;MEDIAL FORM"),
  (0xFB56, "ARABIC LETTER PEH ", "ISOLATED FORM;FINAL FORM;INITIAL FORM;MEDIAL FORM"),
  (0xFB5A, "ARABIC LETTER BEHEH ", "ISOLATED FORM;FINAL FORM;INITIAL FORM;MEDIAL FORM"),
  (0xFB5E, "ARABIC LETTER TTEHEH ", "ISOLATED FORM;FINAL FORM;INITIAL FORM;MEDIAL FORM"),
  (0xFB62, "ARABIC LETTER TEHEH ", "ISOLATED FORM;FINAL FORM;INITIAL FORM;MEDIAL FORM"),
  (0xFB66, "ARABIC LETTER TTEH ", "ISOLATED FORM;FINAL FORM;INITIAL FORM;MEDIAL FORM"),
  (0xFB6A, "ARABIC LETTER VEH ", "ISOLATED FORM;FINAL FORM;INITIAL FORM;MEDIAL FORM"),
  (0xFB6E, "ARABIC LETTER PEHEH ", "ISOLATED FORM;FINAL FORM;INITIAL FORM;MEDIAL FORM"),
  (0xFB72, "ARABIC LETTER DYEH ", "ISOLATED FORM;FINAL FORM;INITIAL FORM;MEDIAL FORM"),
  (0xFB76, "ARABIC LETTER NYEH ", "ISOLATED FORM;FINAL FORM;INITIAL FORM;MEDIAL FORM"),
  (0xFB7A, "ARABIC LETTER TCHEH ", "ISOLATED FORM;FINAL FORM;INITIAL FORM;MEDIAL FORM"),
  (0xFB7E, "ARABIC LETTER TCHEHEH ", "ISOLATED FORM;FINAL FORM;INITIAL FORM;MEDIAL FORM"),
  (0xFB82, "ARABIC LETTER ", "DDAHAL ISOLATED FORM;DDAHAL FINAL FORM;DAHAL ISOLATED FORM;DAHAL FINAL FORM"),
  (0xFB86, "ARABIC LETTER ", "DUL ISOLATED FORM;DUL FINAL FORM;DDAL ISOLATED FORM;DDAL FINAL FORM;JEH ISOLATED FORM"),
  (0xFB8B, "ARABIC LETTER ", "JEH FINAL FORM;RREH ISOLATED FORM;RREH FINAL FORM"),
  (0xFB8E, "ARABIC LETTER KEHEH ", "ISOLATED FORM;FINAL FORM;INITIAL FORM;MEDIAL FORM"),
  (0xFB92, "ARABIC LETTER GAF ", "ISOLATED FORM;FINAL FORM;INITIAL FORM;MEDIAL FORM"),
  (0xFB96, "ARABIC LETTER GUEH ", "ISOLATED FORM;FINAL FORM;INITIAL FORM;MEDIAL FORM"),
  (0xFB9A, "ARABIC LETTER NGOEH ", "ISOLATED FORM;FINAL FORM;INITIAL FORM;MEDIAL FORM"),
  (0xFB9E, "ARABIC LETTER NOON GHUNNA ", "ISOLATED FORM;FINAL FORM"),
  (0xFBA0, "ARABIC LETTER RNOON ", "ISOLATED FORM;FINAL FORM;INITIAL FORM;MEDIAL FORM"),
  (0xFBA4, "ARABIC LETTER HEH WITH YEH ABOVE ", "ISOLATED FORM;FINAL FORM"),
  (0xFBA6, "ARABIC LETTER HEH GOAL ", "ISOLATED FORM;FINAL FORM;INITIAL FORM;MEDIAL FORM"),
  (0xFBAA, "ARABIC LETTER HEH DOACHASHMEE ", "ISOLATED FORM;FINAL FORM;INITIAL FORM;MEDIAL FORM"),
  (0xFBAE, "ARABIC LETTER YEH BARREE ", "ISOLATED FORM;FINAL FORM"),
  (0xFBB0, "ARABIC LETTER YEH BARREE WITH HAMZA ABOVE ", "ISOLATED FORM;FINAL FORM"),
  (0xFBB2, "ARABIC SYMBOL ", "DOT ABOVE;DOT BELOW;TWO DOTS ABOVE;TWO DOTS BELOW"),
  (0xFBB6, "ARABIC SYMBOL THREE DOTS ", "ABOVE;BELOW;POINTING DOWNWARDS ABOVE;POINTING DOWNWARDS BELOW"),
  (0xFBBA, "ARABIC SYMBOL ", "FOUR DOTS ABOVE;FOUR DOTS BELOW;DOUBLE VERTICAL BAR BELOW;TWO DOTS VERTICALLY ABOVE"),
  (0xFBBE, "ARABIC SYMBOL ", "TWO DOTS VERTICALLY BELOW;RING;SMALL TAH ABOVE;SMALL TAH BELOW;WASLA ABOVE"),
  (0xFBD3, "ARABIC LETTER NG ", "ISOLATED FORM;FINAL FORM;INITIAL FORM;MEDIAL FORM"),
  (0xFBD7, "ARABIC LETTER ", "U ISOLATED FORM;U FINAL FORM;OE ISOLATED FORM;OE FINAL FORM;YU ISOLATED FORM"),
  (0xFBDC, "ARABIC LETTER ", "YU FINAL FORM;U WITH HAMZA ABOVE ISOLATED FORM;VE ISOLATED FORM;VE FINAL FORM"),
  (0xFBE0, "ARABIC LETTER KIRGHIZ ", "OE ISOLATED FORM;OE FINAL FORM;YU ISOLATED FORM;YU FINAL FORM"),
  (0xFBE4, "ARABIC LETTER E ", "ISOLATED FORM;FINAL FORM;INITIAL FORM;MEDIAL FORM"),
  (0xFBE8, "ARABIC LETTER UIGHUR KAZAKH KIRGHIZ ALEF MAKSURA ", "INITIAL FORM;MEDIAL FORM"),
  (0xFBEA, "ARABIC LIGATURE YEH WITH HAMZA ABOVE WITH ALEF ", "ISOLATED FORM;FINAL FORM"),
  (0xFBEC, "ARABIC LIGATURE YEH WITH HAMZA ABOVE WITH ", "AE ISOLATED FORM;AE FINAL FORM;WAW ISOLATED FORM"),
  (0xFBEF, "ARABIC LIGATURE YEH WITH HAMZA ABOVE WITH ", "WAW FINAL FORM;U ISOLATED FORM;U FINAL FORM"),
  (0xFBF2, "ARABIC LIGATURE YEH WITH HAMZA ABOVE WITH ", "OE ISOLATED FORM;OE FINAL FORM;YU ISOLATED FORM"),
  (0xFBF5, "ARABIC LIGATURE YEH WITH HAMZA ABOVE WITH ", "YU FINAL FORM;E ISOLATED FORM;E FINAL FORM;E INITIAL FORM"),
  (0xFBF9, "ARABIC LIGATURE UIGHUR KIRGHIZ YEH WITH HAMZA ABOVE WITH ALEF MAKSURA ", "ISOLATED FORM;FINAL FORM"),
  (0xFBFB, "ARABIC LIGATURE UIGHUR KIRGHIZ YEH WITH HAMZA ABOVE WITH ALEF MAKSURA INITIAL ", "FORM"),
  (0xFBFC, "ARABIC LETTER FARSI YEH ", "ISOLATED FORM;FINAL FORM;INITIAL FORM;MEDIAL FORM"),
  (0xFC00, "ARABIC LIGATURE YEH WITH HAMZA ABOVE WITH ", "JEEM ISOLATED FORM;HAH ISOLATED FORM;MEEM ISOLATED FORM"),
  (0xFC03, "ARABIC LIGATURE YEH WITH HAMZA ABOVE WITH ", "ALEF MAKSURA ISOLATED FORM;YEH ISOLATED FORM")]

/-- The names from U+FC05 on. -/
def namesFC05 : List NameRow := [
  (0xFC05, "ARABIC LIGATURE BEH WITH ", "JEEM ISOLATED FORM;HAH ISOLATED FORM;KHAH ISOLATED FORM;MEEM ISOLATED FORM"),
  (0xFC09, "ARABIC LIGATURE BEH WITH ", "ALEF MAKSURA ISOLATED FORM;YEH ISOLATED FORM"),
  (0xFC0B, "ARABIC LIGATURE TEH WITH ", "JEEM ISOLATED FORM;HAH ISOLATED FORM;KHAH ISOLATED FORM;MEEM ISOLATED FORM"),
  (0xFC0F, "ARABIC LIGATURE TEH WITH ", "ALEF MAKSURA ISOLATED FORM;YEH ISOLATED FORM"),
  (0xFC11, "ARABIC LIGATURE THEH WITH ", "JEEM ISOLATED FORM;MEEM ISOLATED FORM;ALEF MAKSURA ISOLATED FORM"),
  (0xFC14, "ARABIC LIGATURE THEH WITH YEH ISOLATED ", "FORM"),
  (0xFC15, "ARABIC LIGATURE JEEM WITH ", "HAH ISOLATED FORM;MEEM ISOLATED FORM"),
  (0xFC17, "ARABIC LIGATURE HAH WITH ", "JEEM ISOLATED FORM;MEEM ISOLATED FORM"),
  (0xFC19, "ARABIC LIGATURE KHAH WITH ", "JEEM ISOLATED FORM;HAH ISOLATED FORM;MEEM ISOLATED FORM"),
  (0xFC1C, "ARABIC LIGATURE SEEN WITH ", "JEEM ISOLATED FORM;HAH ISOLATED FORM;KHAH ISOLATED FORM"),
  (0xFC1F, "ARABIC LIGATURE ", "SEEN WITH MEEM ISOLATED FORM;SAD WITH HAH ISOLATED FORM;SAD WITH MEEM ISOLATED FORM"),
  (0xFC22, "ARABIC LIGATURE DAD WITH ", "JEEM ISOLATED FORM;HAH ISOLATED FORM;KHAH ISOLATED FORM;MEEM ISOLATED FORM"),
  (0xFC26, "ARABIC LIGATURE ", "TAH WITH HAH ISOLATED FORM;TAH WITH MEEM ISOLATED FORM;ZAH WITH MEEM ISOLATED FORM"),
  (0xFC29, "ARABIC LIGATURE AIN WITH ", "JEEM ISOLATED FORM;MEEM ISOLATED FORM"),
  (0xFC2B, "ARABIC LIGATURE GHAIN WITH ", "JEEM ISOLATED FORM;MEEM ISOLATED FORM"),
  (0xFC2D, "ARABIC LIGATURE FEH WITH ", "JEEM ISOLATED FORM;HAH ISOLATED FORM;KHAH ISOLATED FORM;MEEM ISOLATED FORM"),
  (0xFC31, "ARABIC LIGATURE FEH WITH ", "ALEF MAKSURA ISOLATED FORM;YEH ISOLATED FORM"),
  (0xFC33, "ARABIC LIGATURE QAF WITH ", "HAH ISOLATED FORM;MEEM ISOLATED FORM;ALEF MAKSURA ISOLATED FORM"),
  (0xFC36, "ARABIC LIGATURE ", "QAF WITH YEH ISOLATED FORM;KAF WITH ALEF ISOLATED FORM"),
  (0xFC38, "ARABIC LIGATURE KAF WITH ", "JEEM ISOLATED FORM;HAH ISOLATED FORM;KHAH ISOLATED FORM;LAM ISOLATED FORM"),
  (0xFC3C, "ARABIC LIGATURE KAF WITH ", "MEEM ISOLATED FORM;ALEF MAKSURA ISOLATED FORM;YEH ISOLATED FORM"),
  (0xFC3F, "ARABIC LIGATURE LAM WITH ", "JEEM ISOLATED FORM;HAH ISOLATED FORM;KHAH ISOLATED FORM;MEEM ISOLATED FORM"),
  (0xFC43, "ARABIC LIGATURE LAM WITH ", "ALEF MAKSURA ISOLATED FORM;YEH ISOLATED FORM"),
  (0xFC45, "ARABIC LIGATURE MEEM WITH ", "JEEM ISOLATED FORM;HAH ISOLATED FORM;KHAH ISOLATED FORM"),
  (0xFC48, "ARABIC LIGATURE MEEM WITH ", "MEEM ISOLATED FORM;ALEF MAKSURA ISOLATED FORM;YEH ISOLATED FORM"),
  (0xFC4B, "ARABIC LIGATURE NOON WITH ", "JEEM ISOLATED FORM;HAH ISOLATED FORM;KHAH ISOLATED FORM"),
  (0xFC4E, "ARABIC LIGATURE NOON WITH ", "MEEM ISOLATED FORM;ALEF MAKSURA ISOLATED FORM;YEH ISOLATED FORM"),
  (0xFC51, "ARABIC LIGATURE HEH WITH ", "JEEM ISOLATED FORM;MEEM ISOLATED FORM;ALEF MAKSURA ISOLATED FORM"),
  (0xFC54, "ARABIC LIGATURE HEH WITH YEH ISOLATED ", "FORM"),
  (0xFC55, "ARABIC LIGATURE YEH WITH ", "JEEM ISOLATED FORM;HAH ISOLATED FORM;KHAH ISOLATED FORM;MEEM ISOLATED FORM"),
  (0xFC59, "ARABIC LIGATURE YEH WITH ", "ALEF MAKSURA ISOLATED FORM;YEH ISOLATED FORM"),
  (0xFC5B, "ARABIC LIGATURE ", "THAL WITH SUPERSCRIPT ALEF ISOLATED FORM;REH WITH SUPERSCRIPT ALEF ISOLATED FORM"),
  (0xFC5D, "ARABIC LIGATURE ALEF MAKSURA WITH SUPERSCRIPT ALEF ISOLATED ", "FORM"),
  (0xFC5E, "ARABIC LIGATURE SHADDA WITH ", "DAMMATAN ISOLATED FORM;KASRATAN ISOLATED FORM;FATHA ISOLATED FORM"),
  (0xFC61, "ARABIC LIGATURE SHADDA WITH ", "DAMMA ISOLATED FORM;KASRA ISOLATED FORM;SUPERSCRIPT ALEF ISOLATED FORM"),
  (0xFC64, "ARABIC LIGATURE YEH WITH HAMZA ABOVE WITH ", "REH FINAL FORM;ZAIN FINAL FORM;MEEM FINAL FORM"),
  (0xFC67, "ARABIC LIGATURE YEH WITH HAMZA ABOVE WITH ", "NOON FINAL FORM;ALEF MAKSURA FINAL FORM;YEH FINAL FORM"),
  (0xFC6A, "ARABIC LIGATURE BEH WITH ", "REH FINAL FORM;ZAIN FINAL FORM;MEEM FINAL FORM;NOON FINAL FORM"),
  (0xFC6E, "ARABIC LIGATURE ", "BEH WITH ALEF MAKSURA FINAL FORM;BEH WITH YEH FINAL FORM;TEH WITH REH FINAL FORM"),
  (0xFC71, "ARABIC LIGATURE TEH WITH ", "ZAIN FINAL FORM;MEEM FINAL FORM;NOON FINAL FORM;ALEF MAKSURA FINAL FORM"),
  (0xFC75, "ARABIC LIGATURE ", "TEH WITH YEH FINAL FORM;THEH WITH REH FINAL FORM;THEH WITH ZAIN FINAL FORM"),
  (0xFC78, "ARABIC LIGATURE THEH WITH ", "MEEM FINAL FORM;NOON FINAL FORM;ALEF MAKSURA FINAL FORM;YEH FINAL FORM"),
  (0xFC7C, "ARABIC LIGATURE FEH WITH ", "ALEF MAKSURA FINAL FORM;YEH FINAL FORM"),
  (0xFC7E, "ARABIC LIGATURE ", "QAF WITH ALEF MAKSURA FINAL FORM;QAF WITH YEH FINAL FORM;KAF WITH ALEF FINAL FORM"),
  (0xFC81, "ARABIC LIGATURE KAF WITH ", "LAM FINAL FORM;MEEM FINAL FORM;ALEF MAKSURA FINAL FORM;YEH FINAL FORM"),
  (0xFC85, "ARABIC LIGATURE LAM WITH ", "MEEM FINAL FORM;ALEF MAKSURA FINAL FORM;YEH FINAL FORM"),
  (0xFC88, "ARABIC LIGATURE ", "MEEM WITH ALEF FINAL FORM;MEEM WITH MEEM FINAL FORM;NOON WITH REH FINAL FORM"),
  (0xFC8B, "ARABIC LIGATURE NOON WITH ", "ZAIN FINAL FORM;MEEM FINAL FORM;NOON FINAL FORM;ALEF MAKSURA FINAL FORM"),
  (0xFC8F, "ARABIC LIGATURE ", "NOON WITH YEH FINAL FORM;ALEF MAKSURA WITH SUPERSCRIPT ALEF FINAL FORM"),
  (0xFC91, "ARABIC LIGATURE YEH WITH ", "REH FINAL FORM;ZAIN FINAL FORM;MEEM FINAL FORM;NOON FINAL FORM"),
  (0xFC95, "ARABIC LIGATURE YEH WITH ", "ALEF MAKSURA FINAL FORM;YEH FINAL FORM;HAMZA ABOVE WITH JEEM INITIAL FORM"),
  (0xFC98, "ARABIC LIGATURE YEH WITH HAMZA ABOVE WITH ", "HAH INITIAL FORM;KHAH INITIAL FORM;MEEM INITIAL FORM"),
  (0xFC9B, "ARABIC LIGATURE ", "YEH WITH HAMZA ABOVE WITH HEH INITIAL FORM;BEH WITH JEEM INITIAL FORM"),
  (0xFC9D, "ARABIC LIGATURE BEH WITH ", "HAH INITIAL FORM;KHAH INITIAL FORM;MEEM INITIAL FORM;HEH INITIAL FORM"),
  (0xFCA1, "ARABIC LIGATURE TEH WITH ", "JEEM INITIAL FORM;HAH INITIAL FORM;KHAH INITIAL FORM;MEEM INITIAL FORM"),
  (0xFCA5, "ARABIC LIGATURE ", "TEH WITH HEH INITIAL FORM;THEH WITH MEEM INITIAL FORM;JEEM WITH HAH INITIAL FORM"),
  (0xFCA8, "ARABIC LIGATURE ", "JEEM WITH MEEM INITIAL FORM;HAH WITH JEEM INITIAL FORM;HAH WITH MEEM INITIAL FORM"),
  (0xFCAB, "ARABIC LIGATURE KHAH WITH ", "JEEM INITIAL FORM;MEEM INITIAL FORM"),
  (0xFCAD, "ARABIC LIGATURE SEEN WITH ", "JEEM INITIAL FORM;HAH INITIAL FORM;KHAH INITIAL FORM;MEEM INITIAL FORM"),
  (0xFCB1, "ARABIC LIGATURE SAD WITH ", "HAH INITIAL FORM;KHAH INITIAL FORM;MEEM INITIAL FORM"),
  (0xFCB4, "ARABIC LIGATURE DAD WITH ", "JEEM INITIAL FORM;HAH INITIAL FORM;KHAH INITIAL FORM;MEEM INITIAL FORM"),
  (0xFCB8, "ARABIC LIGATURE ", "TAH WITH HAH INITIAL FORM;ZAH WITH MEEM INITIAL FORM"),
  (0xFCBA, "ARABIC LIGATURE AIN WITH ", "JEEM INITIAL FORM;MEEM INITIAL FORM"),
  (0xFCBC, "ARABIC LIGATURE GHAIN WITH ", "JEEM INITIAL FORM;MEEM INITIAL FORM"),
  (0xFCBE, "ARABIC LIGATURE FEH WITH ", "JEEM INITIAL FORM;HAH INITIAL FORM;KHAH INITIAL FORM;MEEM INITIAL FORM"),
  (0xFCC2, "ARABIC LIGATURE QAF WITH ", "HAH INITIAL FORM;MEEM INITIAL FORM"),
  (0xFCC4, "ARABIC LIGATURE KAF WITH ", "JEEM INITIAL FORM;HAH INITIAL FORM;KHAH INITIAL FORM;LAM INITIAL FORM"),
  (0xFCC8, "ARABIC LIGATURE ", "KAF WITH MEEM INITIAL FORM;LAM WITH JEEM INITIAL FORM"),
  (0xFCCA, "ARABIC LIGATURE LAM WITH ", "HAH INITIAL FORM;KHAH INITIAL FORM;MEEM INITIAL FORM;HEH INITIAL FORM"),
  (0xFCCE, "ARABIC LIGATURE MEEM WITH ", "JEEM INITIAL FORM;HAH INITIAL FORM;KHAH INITIAL FORM;MEEM INITIAL FORM"),
  (0xFCD2, "ARABIC LIGATURE NOON WITH ", "JEEM INITIAL FORM;HAH INITIAL FORM;KHAH INITIAL FORM;MEEM INITIAL FORM"),
  (0xFCD6, "ARABIC LIGATURE ", "NOON WITH HEH INITIAL FORM;HEH WITH JEEM INITIAL FORM;HEH WITH MEEM INITIAL FORM"),
  (0xFCD9, "ARABIC LIGATURE ", "HEH WITH SUPERSCRIPT ALEF INITIAL FORM;YEH WITH JEEM INITIAL FORM"),
  (0xFCDB, "ARABIC LIGATURE YEH WITH ", "HAH INITIAL FORM;KHAH INITIAL FORM;MEEM INITIAL FORM;HEH INITIAL FORM"),
  (0xFCDF, "ARABIC LIGATURE YEH WITH HAMZA ABOVE WITH ", "MEEM MEDIAL FORM;HEH MEDIAL FORM"),
  (0xFCE1, "ARABIC LIGATURE ", "BEH WITH MEEM MEDIAL FORM;BEH WITH HEH MEDIAL FORM;TEH WITH MEEM MEDIAL FORM"),
  (0xFCE4, "ARABIC LIGATURE ", "TEH WITH HEH MEDIAL FORM;THEH WITH MEEM MEDIAL FORM;THEH WITH HEH MEDIAL FORM"),
  (0xFCE7, "ARABIC LIGATURE SEEN WITH ", "MEEM MEDIAL FORM;HEH MEDIAL FORM"),
  (0xFCE9, "ARABIC LIGATURE ", "SHEEN WITH MEEM MEDIAL FORM;SHEEN WITH HEH MEDIAL FORM;KAF WITH LAM MEDIAL FORM"),
  (0xFCEC, "ARABIC LIGATURE ", "KAF WITH MEEM MEDIAL FORM;LAM WITH MEEM MEDIAL FORM;NOON WITH MEEM MEDIAL FORM"),
  (0xFCEF, "ARABIC LIGATURE ", "NOON WITH HEH MEDIAL FORM;YEH WITH MEEM MEDIAL FORM;YEH WITH HEH MEDIAL FORM"),
  (0xFCF2, "ARABIC LIGATURE SHADDA WITH ", "FATHA MEDIAL FORM;DAMMA MEDIAL FORM;KASRA MEDIAL FORM"),
  (0xFCF5, "ARABIC LIGATURE TAH WITH ", "ALEF MAKSURA ISOLATED FORM;YEH ISOLATED FORM"),
  (0xFCF7, "ARABIC LIGATURE AIN WITH ", "ALEF MAKSURA ISOLATED FORM;YEH ISOLATED FORM"),
  (0xFCF9, "ARABIC LIGATURE GHAIN WITH ", "ALEF MAKSURA ISOLATED FORM;YEH ISOLATED FORM"),
  (0xFCFB, "ARABIC LIGATURE SEEN WITH ", "ALEF MAKSURA ISOLATED FORM;YEH ISOLATED FORM"),
  (0xFCFD, "ARABIC LIGATURE SHEEN WITH ", "ALEF MAKSURA ISOLATED FORM;YEH ISOLATED FORM"),
  (0xFCFF, "ARABIC LIGATURE HAH WITH ", "ALEF MAKSURA ISOLATED FORM;YEH ISOLATED FORM"),
  (0xFD01, "ARABIC LIGATURE JEEM WITH ", "ALEF MAKSURA ISOLATED FORM;YEH ISOLATED FORM"),
  (0xFD03, "ARABIC LIGATURE KHAH WITH ", "ALEF MAKSURA ISOLATED FORM;YEH ISOLATED FORM"),
  (0xFD05, "ARABIC LIGATURE SAD WITH ", "ALEF MAKSURA ISOLATED FORM;YEH ISOLATED FORM"),
  (0xFD07, "ARABIC LIGATURE DAD WITH ", "ALEF MAKSURA ISOLATED FORM;YEH ISOLATED FORM"),
  (0xFD09, "ARABIC LIGATURE SHEEN WITH ", "JEEM ISOLATED FORM;HAH ISOLATED FORM;KHAH ISOLATED FORM"),
  (0xFD0C, "ARABIC LIGATURE SHEEN WITH ", "MEEM ISOLATED FORM;REH ISOLATED FORM"),
  (0xFD0E, "ARABIC LIGATURE ", "SEEN WITH REH ISOLATED FORM;SAD WITH REH ISOLATED FORM;DAD WITH REH ISOLATED FORM"),
  (0xFD11, "ARABIC LIGATURE TAH WITH ", "ALEF MAKSURA FINAL FORM;YEH FINAL FORM"),
  (0xFD13, "ARABIC LIGATURE AIN WITH ", "ALEF MAKSURA FINAL FORM;YEH FINAL FORM"),
  (0xFD15, "ARABIC LIGATURE GHAIN WITH ", "ALEF MAKSURA FINAL FORM;YEH FINAL FORM"),
  (0xFD17, "ARABIC LIGATURE SEEN WITH ", "ALEF MAKSURA FINAL FORM;YEH FINAL FORM"),
  (0xFD19, "ARABIC LIGATURE SHEEN WITH ", "ALEF MAKSURA FINAL FORM;YEH FINAL FORM")]

/-- The names from U+FD1B on. -/
def namesFD1B : List NameRow := [
  (0xFD1B, "ARABIC LIGATURE HAH WITH ", "ALEF MAKSURA FINAL FORM;YEH FINAL FORM"),
  (0xFD1D, "ARABIC LIGATURE JEEM WITH ", "ALEF MAKSURA FINAL FORM;YEH FINAL FORM"),
  (0xFD1F, "ARABIC LIGATURE KHAH WITH ", "ALEF MAKSURA FINAL FORM;YEH FINAL FORM"),
  (0xFD21, "ARABIC LIGATURE SAD WITH ", "ALEF MAKSURA FINAL FORM;YEH FINAL FORM"),
  (0xFD23, "ARABIC LIGATURE ", "DAD WITH ALEF MAKSURA FINAL FORM;DAD WITH YEH FINAL FORM;SHEEN WITH JEEM FINAL FORM"),
  (0xFD26, "ARABIC LIGATURE SHEEN WITH ", "HAH FINAL FORM;KHAH FINAL FORM;MEEM FINAL FORM;REH FINAL FORM"),
  (0xFD2A, "ARABIC LIGATURE ", "SEEN WITH REH FINAL FORM;SAD WITH REH FINAL FORM;DAD WITH REH FINAL FORM"),
  (0xFD2D, "ARABIC LIGATURE SHEEN WITH ", "JEEM INITIAL FORM;HAH INITIAL FORM;KHAH INITIAL FORM;MEEM INITIAL FORM"),
  (0xFD31, "ARABIC LIGATURE ", "SEEN WITH HEH INITIAL FORM;SHEEN WITH HEH INITIAL FORM;TAH WITH MEEM INITIAL FORM"),
  (0xFD34, "ARABIC LIGATURE SEEN WITH ", "JEEM MEDIAL FORM;HAH MEDIAL FORM;KHAH MEDIAL FORM"),
  (0xFD37, "ARABIC LIGATURE SHEEN WITH ", "JEEM MEDIAL FORM;HAH MEDIAL FORM;KHAH MEDIAL FORM"),
  (0xFD3A, "ARABIC LIGATURE ", "TAH WITH MEEM MEDIAL FORM;ZAH WITH MEEM MEDIAL FORM"),
  (0xFD3C, "ARABIC LIGATURE ALEF WITH FATHATAN ", "FINAL FORM;ISOLATED FORM"),
  (0xFD3E, "", "ORNATE LEFT PARENTHESIS;ORNATE RIGHT PARENTHESIS;ARABIC LIGATURE RAHIMAHU ALLAAH"),
  (0xFD41, "ARABIC LIGATURE RADI ALLAAHU ", "ANH;ANHAA;ANHUM;ANHUMAA;ANHUNNA"),
  (0xFD46, "ARABIC LIGATURE ", "SALLALLAAHU ALAYHI WA-AALIH;ALAYHI AS-SALAAM;ALAYHIM AS-SALAAM;ALAYHIMAA AS-SALAAM"),
  (0xFD4A, "ARABIC LIGATURE ", "ALAYHI AS-SALAATU WAS-SALAAM;QUDDISA SIRRAH;SALLALLAHU ALAYHI WAAALIHEE WA-SALLAM"),
  (0xFD4D, "ARABIC LIGATURE ", "ALAYHAA AS-SALAAM;TABAARAKA WA-TAAALAA;RAHIMAHUM ALLAAH"),
  (0xFD50, "ARABIC LIGATURE TEH WITH JEEM WITH MEEM INITIAL ", "FORM"),
  (0xFD51, "ARABIC LIGATURE TEH WITH HAH WITH ", "JEEM FINAL FORM;JEEM INITIAL FORM;MEEM INITIAL FORM"),
  (0xFD54, "ARABIC LIGATURE TEH WITH KHAH WITH MEEM INITIAL ", "FORM"),
  (0xFD55, "ARABIC LIGATURE TEH WITH MEEM WITH ", "JEEM INITIAL FORM;HAH INITIAL FORM;KHAH INITIAL FORM"),
  (0xFD58, "ARABIC LIGATURE JEEM WITH MEEM WITH HAH ", "FINAL FORM;INITIAL FORM"),
  (0xFD5A, "ARABIC LIGATURE HAH WITH MEEM WITH ", "YEH FINAL FORM;ALEF MAKSURA FINAL FORM"),
  (0xFD5C, "ARABIC LIGATURE SEEN WITH HAH WITH JEEM INITIAL ", "FORM"),
  (0xFD5D, "ARABIC LIGATURE SEEN WITH JEEM WITH ", "HAH INITIAL FORM;ALEF MAKSURA FINAL FORM"),
  (0xFD5F, "ARABIC LIGATURE SEEN WITH MEEM WITH ", "HAH FINAL FORM;HAH INITIAL FORM;JEEM INITIAL FORM"),
  (0xFD62, "ARABIC LIGATURE SEEN WITH MEEM WITH MEEM ", "FINAL FORM;INITIAL FORM"),
  (0xFD64, "ARABIC LIGATURE SAD WITH HAH WITH HAH ", "FINAL FORM;INITIAL FORM"),
  (0xFD66, "ARABIC LIGATURE ", "SAD WITH MEEM WITH MEEM FINAL FORM;SHEEN WITH HAH WITH MEEM FINAL FORM"),
  (0xFD68, "ARABIC LIGATURE SHEEN WITH ", "HAH WITH MEEM INITIAL FORM;JEEM WITH YEH FINAL FORM"),
  (0xFD6A, "ARABIC LIGATURE SHEEN WITH MEEM WITH ", "KHAH FINAL FORM;KHAH INITIAL FORM;MEEM FINAL FORM"),
  (0xFD6D, "ARABIC LIGATURE ", "SHEEN WITH MEEM WITH MEEM INITIAL FORM;DAD WITH HAH WITH ALEF MAKSURA FINAL FORM"),
  (0xFD6F, "ARABIC LIGATURE DAD WITH KHAH WITH MEEM ", "FINAL FORM;INITIAL FORM"),
  (0xFD71, "ARABIC LIGATURE TAH WITH MEEM WITH ", "HAH FINAL FORM;HAH INITIAL FORM;MEEM INITIAL FORM;YEH FINAL FORM"),
  (0xFD75, "ARABIC LIGATURE AIN WITH JEEM WITH MEEM FINAL ", "FORM"),
  (0xFD76, "ARABIC LIGATURE AIN WITH MEEM WITH ", "MEEM FINAL FORM;MEEM INITIAL FORM;ALEF MAKSURA FINAL FORM"),
  (0xFD79, "ARABIC LIGATURE GHAIN WITH MEEM WITH ", "MEEM FINAL FORM;YEH FINAL FORM;ALEF MAKSURA FINAL FORM"),
  (0xFD7C, "ARABIC LIGATURE FEH WITH KHAH WITH MEEM ", "FINAL FORM;INITIAL FORM"),
  (0xFD7E, "ARABIC LIGATURE QAF WITH MEEM WITH ", "HAH FINAL FORM;MEEM FINAL FORM"),
  (0xFD80, "ARABIC LIGATURE LAM WITH HAH WITH ", "MEEM FINAL FORM;YEH FINAL FORM;ALEF MAKSURA FINAL FORM"),
  (0xFD83, "ARABIC LIGATURE LAM WITH JEEM WITH JEEM ", "INITIAL FORM;FINAL FORM"),
  (0xFD85, "ARABIC LIGATURE LAM WITH KHAH WITH MEEM ", "FINAL FORM;INITIAL FORM"),
  (0xFD87, "ARABIC LIGATURE LAM WITH MEEM WITH HAH ", "FINAL FORM;INITIAL FORM"),
  (0xFD89, "ARABIC LIGATURE MEEM WITH HAH WITH ", "JEEM INITIAL FORM;MEEM INITIAL FORM;YEH FINAL FORM"),
  (0xFD8C, "ARABIC LIGATURE MEEM WITH JEEM WITH ", "HAH INITIAL FORM;MEEM INITIAL FORM"),
  (0xFD8E, "ARABIC LIGATURE MEEM WITH KHAH WITH ", "JEEM INITIAL FORM;MEEM INITIAL FORM"),
  (0xFD92, "ARABIC LIGATURE MEEM WITH JEEM WITH KHAH INITIAL ", "FORM"),
  (0xFD93, "ARABIC LIGATURE HEH WITH MEEM WITH ", "JEEM INITIAL FORM;MEEM INITIAL FORM"),
  (0xFD95, "ARABIC LIGATURE NOON WITH HAH WITH ", "MEEM INITIAL FORM;ALEF MAKSURA FINAL FORM"),
  (0xFD97, "ARABIC LIGATURE NOON WITH JEEM WITH ", "MEEM FINAL FORM;MEEM INITIAL FORM;ALEF MAKSURA FINAL FORM"),
  (0xFD9A, "ARABIC LIGATURE NOON WITH MEEM WITH ", "YEH FINAL FORM;ALEF MAKSURA FINAL FORM"),
  (0xFD9C, "ARABIC LIGATURE YEH WITH MEEM WITH MEEM ", "FINAL FORM;INITIAL FORM"),
  (0xFD9E, "ARABIC LIGATURE BEH WITH KHAH WITH YEH FINAL ", "FORM"),
  (0xFD9F, "ARABIC LIGATURE TEH WITH JEEM WITH ", "YEH FINAL FORM;ALEF MAKSURA FINAL FORM"),
  (0xFDA1, "ARABIC LIGATURE TEH WITH KHAH WITH ", "YEH FINAL FORM;ALEF MAKSURA FINAL FORM"),
  (0xFDA3, "ARABIC LIGATURE TEH WITH MEEM WITH ", "YEH FINAL FORM;ALEF MAKSURA FINAL FORM"),
  (0xFDA5, "ARABIC LIGATURE JEEM WITH ", "MEEM WITH YEH FINAL FORM;HAH WITH ALEF MAKSURA FINAL FORM"),
  (0xFDA7, "ARABIC LIGATURE JEEM WITH MEEM WITH ALEF MAKSURA FINAL ", "FORM"),
  (0xFDA8, "ARABIC LIGATURE ", "SEEN WITH KHAH WITH ALEF MAKSURA FINAL FORM;SAD WITH HAH WITH YEH FINAL FORM"),
  (0xFDAA, "ARABIC LIGATURE ", "SHEEN WITH HAH WITH YEH FINAL FORM;DAD WITH HAH WITH YEH FINAL FORM"),
  (0xFDAC, "ARABIC LIGATURE LAM WITH ", "JEEM WITH YEH FINAL FORM;MEEM WITH YEH FINAL FORM"),
  (0xFDAE, "ARABIC LIGATURE YEH WITH ", "HAH WITH YEH FINAL FORM;JEEM WITH YEH FINAL FORM;MEEM WITH YEH FINAL FORM"),
  (0xFDB1, "ARABIC LIGATURE ", "MEEM WITH MEEM WITH YEH FINAL FORM;QAF WITH MEEM WITH YEH FINAL FORM"),
  (0xFDB3, "ARABIC LIGATURE ", "NOON WITH HAH WITH YEH FINAL FORM;QAF WITH MEEM WITH HAH INITIAL FORM"),
  (0xFDB5, "ARABIC LIGATURE ", "LAM WITH HAH WITH MEEM INITIAL FORM;AIN WITH MEEM WITH YEH FINAL FORM"),
  (0xFDB7, "ARABIC LIGATURE ", "KAF WITH MEEM WITH YEH FINAL FORM;NOON WITH JEEM WITH HAH INITIAL FORM"),
  (0xFDB9, "ARABIC LIGATURE ", "MEEM WITH KHAH WITH YEH FINAL FORM;LAM WITH JEEM WITH MEEM INITIAL FORM"),
  (0xFDBB, "ARABIC LIGATURE ", "KAF WITH MEEM WITH MEEM FINAL FORM;LAM WITH JEEM WITH MEEM FINAL FORM"),
  (0xFDBD, "ARABIC LIGATURE ", "NOON WITH JEEM WITH HAH FINAL FORM;JEEM WITH HAH WITH YEH FINAL FORM"),
  (0xFDBF, "ARABIC LIGATURE ", "HAH WITH JEEM WITH YEH FINAL FORM;MEEM WITH JEEM WITH YEH FINAL FORM"),
  (0xFDC1, "ARABIC LIGATURE ", "FEH WITH MEEM WITH YEH FINAL FORM;BEH WITH HAH WITH YEH FINAL FORM"),
  (0xFDC3, "ARABIC LIGATURE ", "KAF WITH MEEM WITH MEEM INITIAL FORM;AIN WITH JEEM WITH MEEM INITIAL FORM"),
  (0xFDC5, "ARABIC LIGATURE ", "SAD WITH MEEM WITH MEEM INITIAL FORM;SEEN WITH KHAH WITH YEH FINAL FORM"),
  (0xFDC7, "ARABIC LIGATURE NOON WITH JEEM WITH YEH FINAL ", "FORM"), (0xFDCF, "ARABIC LIGATURE SALAAMUHU ", "ALAYNAA"),
  (0xFDF0, "ARABIC LIGATURE SALLA USED AS KORANIC STOP SIGN ISOLATED ", "FORM"),
  (0xFDF1, "ARABIC LIGATURE ", "QALA USED AS KORANIC STOP SIGN ISOLATED FORM;ALLAH ISOLATED FORM"),
  (0xFDF3, "ARABIC LIGATURE ", "AKBAR ISOLATED FORM;MOHAMMAD ISOLATED FORM;SALAM ISOLATED FORM;RASOUL ISOLATED FORM"),
  (0xFDF7, "ARABIC LIGATURE ", "ALAYHE ISOLATED FORM;WASALLAM ISOLATED FORM;SALLA ISOLATED FORM"),
  (0xFDFA, "", "ARABIC LIGATURE SALLALLAHOU ALAYHE WASALLAM;ARABIC LIGATURE JALLAJALALOUHOU;RIAL SIGN"),
  (0xFDFD, "ARABIC LIGATURE ", "BISMILLAH AR-RAHMAN AR-RAHEEM;SUBHAANAHU WA TAAALAA;AZZA WA JALL"),
  (0xFE00, "VARIATION SELECTOR-", "1;2;3;4;5;6;7;8;9;10;11;12;13;14;15;16"),
  (0xFE10, "PRESENTATION FORM FOR VERTICAL ", "COMMA;IDEOGRAPHIC COMMA;IDEOGRAPHIC FULL STOP;COLON;SEMICOLON"),
  (0xFE15, "PRESENTATION FORM FOR VERTICAL ", "EXCLAMATION MARK;QUESTION MARK;LEFT WHITE LENTICULAR BRACKET"),
  (0xFE18, "PRESENTATION FORM FOR VERTICAL ", "RIGHT WHITE LENTICULAR BRAKCET;HORIZONTAL ELLIPSIS"),
  (0xFE20, "COMBINING ", "LIGATURE LEFT HALF;LIGATURE RIGHT HALF;DOUBLE TILDE LEFT HALF;DOUBLE TILDE RIGHT HALF"),
  (0xFE24, "COMBINING ", "MACRON LEFT HALF;MACRON RIGHT HALF;CONJOINING MACRON;LIGATURE LEFT HALF BELOW"),
  (0xFE28, "COMBINING ", "LIGATURE RIGHT HALF BELOW;TILDE LEFT HALF BELOW;TILDE RIGHT HALF BELOW"),
  (0xFE2B, "COMBINING ", "MACRON LEFT HALF BELOW;MACRON RIGHT HALF BELOW;CONJOINING MACRON BELOW"),
  (0xFE2E, "COMBINING CYRILLIC TITLO ", "LEFT HALF;RIGHT HALF"),
  (0xFE30, "PRESENTATION FORM FOR VERTICAL ", "TWO DOT LEADER;EM DASH;EN DASH;LOW LINE;WAVY LOW LINE"),
  (0xFE35, "PRESENTATION FORM FOR VERTICAL ", "LEFT PARENTHESIS;RIGHT PARENTHESIS;LEFT CURLY BRACKET"),
  (0xFE38, "PRESENTATION FORM FOR VERTICAL ", "RIGHT CURLY BRACKET;LEFT TORTOISE SHELL BRACKET"),
  (0xFE3A, "PRESENTATION FORM FOR VERTICAL ", "RIGHT TORTOISE SHELL BRACKET;LEFT BLACK LENTICULAR BRACKET"),
  (0xFE3C, "PRESENTATION FORM FOR VERTICAL ", "RIGHT BLACK LENTICULAR BRACKET;LEFT DOUBLE ANGLE BRACKET"),
  (0xFE3E, "PRESENTATION FORM FOR VERTICAL ", "RIGHT DOUBLE ANGLE BRACKET;LEFT ANGLE BRACKET;RIGHT ANGLE BRACKET"),
  (0xFE41, "PRESENTATION FORM FOR VERTICAL ", "LEFT CORNER BRACKET;RIGHT CORNER BRACKET;LEFT WHITE CORNER BRACKET"),
  (0xFE44, "", "PRESENTATION FORM FOR VERTICAL RIGHT WHITE CORNER BRACKET;SESAME DOT;WHITE SESAME DOT"),
  (0xFE47, "PRESENTATION FORM FOR VERTICAL ", "LEFT SQUARE BRACKET;RIGHT SQUARE BRACKET")]

/-- The names from U+FE49 on. -/
def namesFE49 : List NameRow := [
  (0xFE49, "", "DASHED OVERLINE;CENTRELINE OVERLINE;WAVY OVERLINE;DOUBLE WAVY OVERLINE;DASHED LOW LINE"),
  (0xFE4E, "", "CENTRELINE LOW LINE;WAVY LOW LINE;SMALL COMMA;SMALL IDEOGRAPHIC COMMA;SMALL FULL STOP"),
  (0xFE54, "SMALL ", "SEMICOLON;COLON;QUESTION MARK;EXCLAMATION MARK;EM DASH;LEFT PARENTHESIS;RIGHT PARENTHESIS"),
  (0xFE5B, "SMALL ", "LEFT CURLY BRACKET;RIGHT CURLY BRACKET;LEFT TORTOISE SHELL BRACKET"),
  (0xFE5E, "SMALL ", "RIGHT TORTOISE SHELL BRACKET;NUMBER SIGN;AMPERSAND;ASTERISK;PLUS SIGN;HYPHEN-MINUS"),
  (0xFE64, "SMALL ", "LESS-THAN SIGN;GREATER-THAN SIGN;EQUALS SIGN"),
  (0xFE68, "SMALL ", "REVERSE SOLIDUS;DOLLAR SIGN;PERCENT SIGN;COMMERCIAL AT"),
  (0xFE70, "ARABIC ", "FATHATAN ISOLATED FORM;TATWEEL WITH FATHATAN ABOVE;DAMMATAN ISOLATED FORM;TAIL FRAGMENT"),
  (0xFE74, "ARABIC KASRATAN ISOLATED ", "FORM"),
  (0xFE76, "ARABIC ", "FATHA ISOLATED FORM;FATHA MEDIAL FORM;DAMMA ISOLATED FORM;DAMMA MEDIAL FORM"),
  (0xFE7A, "ARABIC ", "KASRA ISOLATED FORM;KASRA MEDIAL FORM;SHADDA ISOLATED FORM;SHADDA MEDIAL FORM"),
  (0xFE7E, "ARABIC ", "SUKUN ISOLATED FORM;SUKUN MEDIAL FORM;LETTER HAMZA ISOLATED FORM"),
  (0xFE81, "ARABIC LETTER ALEF WITH MADDA ABOVE ", "ISOLATED FORM;FINAL FORM"),
  (0xFE83, "ARABIC LETTER ALEF WITH HAMZA ABOVE ", "ISOLATED FORM;FINAL FORM"),
  (0xFE85, "ARABIC LETTER WAW WITH HAMZA ABOVE ", "ISOLATED FORM;FINAL FORM"),
  (0xFE87, "ARABIC LETTER ALEF WITH HAMZA BELOW ", "ISOLATED FORM;FINAL FORM"),
  (0xFE89, "ARABIC LETTER YEH WITH HAMZA ABOVE ", "ISOLATED FORM;FINAL FORM;INITIAL FORM;MEDIAL FORM"),
  (0xFE8D, "ARABIC LETTER ALEF ", "ISOLATED FORM;FINAL FORM"),
  (0xFE8F, "ARABIC LETTER BEH ", "ISOLATED FORM;FINAL FORM;INITIAL FORM;MEDIAL FORM"),
  (0xFE93, "ARABIC LETTER TEH ", "MARBUTA ISOLATED FORM;MARBUTA FINAL FORM;ISOLATED FORM;FINAL FORM;INITIAL FORM"),
  (0xFE98, "ARABIC LETTER ", "TEH MEDIAL FORM;THEH ISOLATED FORM;THEH FINAL FORM;THEH INITIAL FORM;THEH MEDIAL FORM"),
  (0xFE9D, "ARABIC LETTER JEEM ", "ISOLATED FORM;FINAL FORM;INITIAL FORM;MEDIAL FORM"),
  (0xFEA1, "ARABIC LETTER HAH ", "ISOLATED FORM;FINAL FORM;INITIAL FORM;MEDIAL FORM"),
  (0xFEA5, "ARABIC LETTER KHAH ", "ISOLATED FORM;FINAL FORM;INITIAL FORM;MEDIAL FORM"),
  (0xFEA9, "ARABIC LETTER ", "DAL ISOLATED FORM;DAL FINAL FORM;THAL ISOLATED FORM;THAL FINAL FORM;REH ISOLATED FORM"),
  (0xFEAE, "ARABIC LETTER ", "REH FINAL FORM;ZAIN ISOLATED FORM;ZAIN FINAL FORM"),
  (0xFEB1, "ARABIC LETTER SEEN ", "ISOLATED FORM;FINAL FORM;INITIAL FORM;MEDIAL FORM"),
  (0xFEB5, "ARABIC LETTER SHEEN ", "ISOLATED FORM;FINAL FORM;INITIAL FORM;MEDIAL FORM"),
  (0xFEB9, "ARABIC LETTER SAD ", "ISOLATED FORM;FINAL FORM;INITIAL FORM;MEDIAL FORM"),
  (0xFEBD, "ARABIC LETTER DAD ", "ISOLATED FORM;FINAL FORM;INITIAL FORM;MEDIAL FORM"),
  (0xFEC1, "ARABIC LETTER TAH ", "ISOLATED FORM;FINAL FORM;INITIAL FORM;MEDIAL FORM"),
  (0xFEC5, "ARABIC LETTER ZAH ", "ISOLATED FORM;FINAL FORM;INITIAL FORM;MEDIAL FORM"),
  (0xFEC9, "ARABIC LETTER AIN ", "ISOLATED FORM;FINAL FORM;INITIAL FORM;MEDIAL FORM"),
  (0xFECD, "ARABIC LETTER GHAIN ", "ISOLATED FORM;FINAL FORM;INITIAL FORM;MEDIAL FORM"),
  (0xFED1, "ARABIC LETTER FEH ", "ISOLATED FORM;FINAL FORM;INITIAL FORM;MEDIAL FORM"),
  (0xFED5, "ARABIC LETTER QAF ", "ISOLATED FORM;FINAL FORM;INITIAL FORM;MEDIAL FORM"),
  (0xFED9, "ARABIC LETTER KAF ", "ISOLATED FORM;FINAL FORM;INITIAL FORM;MEDIAL FORM"),
  (0xFEDD, "ARABIC LETTER LAM ", "ISOLATED FORM;FINAL FORM;INITIAL FORM;MEDIAL FORM"),
  (0xFEE1, "ARABIC LETTER MEEM ", "ISOLATED FORM;FINAL FORM;INITIAL FORM;MEDIAL FORM"),
  (0xFEE5, "ARABIC LETTER NOON ", "ISOLATED FORM;FINAL FORM;INITIAL FORM;MEDIAL FORM"),
  (0xFEE9, "ARABIC LETTER HEH ", "ISOLATED FORM;FINAL FORM;INITIAL FORM;MEDIAL FORM"),
  (0xFEED, "ARABIC LETTER ", "WAW ISOLATED FORM;WAW FINAL FORM;ALEF MAKSURA ISOLATED FORM;ALEF MAKSURA FINAL FORM"),
  (0xFEF1, "ARABIC LETTER YEH ", "ISOLATED FORM;FINAL FORM;INITIAL FORM;MEDIAL FORM"),
  (0xFEF5, "ARABIC LIGATURE LAM WITH ALEF WITH MADDA ABOVE ", "ISOLATED FORM;FINAL FORM"),
  (0xFEF7, "ARABIC LIGATURE LAM WITH ALEF WITH HAMZA ", "ABOVE ISOLATED FORM;ABOVE FINAL FORM;BELOW ISOLATED FORM"),
  (0xFEFA, "ARABIC LIGATURE LAM WITH ALEF ", "WITH HAMZA BELOW FINAL FORM;ISOLATED FORM;FINAL FORM"),
  (0xFEFF, "ZERO WIDTH NO-BREAK ", "SPACE"),
  (0xFF01, "FULLWIDTH ", "EXCLAMATION MARK;QUOTATION MARK;NUMBER SIGN;DOLLAR SIGN;PERCENT SIGN;AMPERSAND;APOSTROPHE"),
  (0xFF08, "FULLWIDTH ", "LEFT PARENTHESIS;RIGHT PARENTHESIS;ASTERISK;PLUS SIGN;COMMA;HYPHEN-MINUS;FULL STOP"),
  (0xFF0F, "FULLWIDTH ", "SOLIDUS"), (0xFF10, "FULLWIDTH DIGIT ", "ZERO;ONE;TWO;THREE;FOUR;FIVE;SIX;SEVEN;EIGHT;NINE"),
  (0xFF1A, "FULLWIDTH ", "COLON;SEMICOLON;LESS-THAN SIGN;EQUALS SIGN;GREATER-THAN SIGN;QUESTION MARK;COMMERCIAL AT"),
  (0xFF21, "FULLWIDTH LATIN CAPITAL LETTER ", "A;B;C;D;E;F;G;H;I;J;K;L;M;N;O;P;Q;R;S;T;U;V;W;X;Y;Z"),
  (0xFF3B, "FULLWIDTH ", "LEFT SQUARE BRACKET;REVERSE SOLIDUS;RIGHT SQUARE BRACKET;CIRCUMFLEX ACCENT;LOW LINE"),
  (0xFF40, "FULLWIDTH GRAVE ", "ACCENT"),
  (0xFF41, "FULLWIDTH LATIN SMALL LETTER ", "A;B;C;D;E;F;G;H;I;J;K;L;M;N;O;P;Q;R;S;T;U;V;W;X;Y;Z"),
  (0xFF5B, "FULLWIDTH ", "LEFT CURLY BRACKET;VERTICAL LINE;RIGHT CURLY BRACKET;TILDE;LEFT WHITE PARENTHESIS"),
  (0xFF60, "FULLWIDTH RIGHT WHITE ", "PARENTHESIS"),
  (0xFF61, "HALFWIDTH ", "IDEOGRAPHIC FULL STOP;LEFT CORNER BRACKET;RIGHT CORNER BRACKET;IDEOGRAPHIC COMMA"),
  (0xFF65, "HALFWIDTH KATAKANA ", "MIDDLE DOT;LETTER WO"),
  (0xFF67, "HALFWIDTH KATAKANA LETTER SMALL ", "A;I;U;E;O;YA;YU;YO;TU"),
  (0xFF70, "HALFWIDTH KATAKANA-HIRAGANA PROLONGED SOUND ", "MARK"),
  (0xFF71, "HALFWIDTH KATAKANA LETTER ", "A;I;U;E;O;KA;KI;KU;KE;KO;SA;SI;SU;SE;SO;TA;TI;TU;TE;TO;NA;NI;NU;NE;NO;HA"),
  (0xFF8B, "HALFWIDTH KATAKANA LETTER ", "HI;HU;HE;HO;MA;MI;MU;ME;MO;YA;YU;YO;RA;RI;RU;RE;RO;WA;N"),
  (0xFF9E, "HALFWIDTH KATAKANA ", "VOICED SOUND MARK;SEMI-VOICED SOUND MARK"),
  (0xFFA0, "HALFWIDTH HANGUL ", "FILLER;LETTER KIYEOK;LETTER SSANGKIYEOK"),
  (0xFFA3, "HALFWIDTH HANGUL LETTER ", "KIYEOK-SIOS;NIEUN;NIEUN-CIEUC;NIEUN-HIEUH;TIKEUT;SSANGTIKEUT;RIEUL"),
  (0xFFAA, "HALFWIDTH HANGUL LETTER RIEUL-", "KIYEOK;MIEUM;PIEUP;SIOS;THIEUTH;PHIEUPH;HIEUH"),
  (0xFFB1, "HALFWIDTH HANGUL LETTER ", "MIEUM;PIEUP;SSANGPIEUP;PIEUP-SIOS;SIOS;SSANGSIOS;IEUNG;CIEUC;SSANGCIEUC"),
  (0xFFBA, "HALFWIDTH HANGUL LETTER ", "CHIEUCH;KHIEUKH;THIEUTH;PHIEUPH;HIEUH"),
  (0xFFC2, "HALFWIDTH HANGUL LETTER ", "A;AE;YA;YAE;EO;E"), (0xFFCA, "HALFWIDTH HANGUL LETTER ", "YEO;YE;O;WA;WAE;OE"),
  (0xFFD2, "HALFWIDTH HANGUL LETTER ", "YO;U;WEO;WE;WI;YU"), (0xFFDA, "HALFWIDTH HANGUL LETTER ", "EU;YI;I"),
  (0xFFE0, "FULLWIDTH ", "CENT SIGN;POUND SIGN;NOT SIGN;MACRON;BROKEN BAR;YEN SIGN;WON SIGN"),
  (0xFFE8, "HALFWIDTH ", "FORMS LIGHT VERTICAL;LEFTWARDS ARROW;UPWARDS ARROW;RIGHTWARDS ARROW;DOWNWARDS ARROW"),
  (0xFFED, "HALFWIDTH ", "BLACK SQUARE;WHITE CIRCLE"),
  (0xFFF9, "INTERLINEAR ANNOTATION ", "ANCHOR;SEPARATOR;TERMINATOR"),
  (0xFFFC, "", "OBJECT REPLACEMENT CHARACTER;REPLACEMENT CHARACTER")]

/-- The rows of this part. -/
def furtherNames : List (List NameRow) := [
  namesA000, namesA66F, namesA808, namesAB3D, namesFC05, namesFD1B, namesFE49]

end SourceAtlas.Unicode
