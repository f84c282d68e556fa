import SourceAtlas.Unicode.Names.Row

/-!
Names of the other supplementary characters: notation, pictographs, tags and variation selectors.
-/

namespace SourceAtlas.Unicode

/-- The names from U+1B000 on. -/
def names1B000 : List NameRow := [
  (0x1B000, "", "KATAKANA LETTER ARCHAIC E;HIRAGANA LETTER ARCHAIC YE;HENTAIGANA LETTER A-1"),
  (0x1B003, "HENTAIGANA LETTER ", "A-2;A-3;A-WO;I-1;I-2;I-3;I-4;U-1;U-2;U-3;U-4;U-5;E-2;E-3;E-4;E-5;E-6;O-1;O-2;O-3"),
  (0x1B017, "HENTAIGANA LETTER KA-", "1;2;3;4;5;6;7;8;9;10;11;KE"),
  (0x1B023, "HENTAIGANA LETTER KI-", "1;2;3;4;5;6;7;8"),
  (0x1B02B, "HENTAIGANA LETTER ", "KU-1;KU-2;KU-3;KU-4;KU-5;KU-6;KU-7;KE-1;KE-2;KE-3;KE-4;KE-5;KE-6;KO-1;KO-2;KO-3"),
  (0x1B03B, "HENTAIGANA LETTER ", "KO-KI;SA-1;SA-2;SA-3;SA-4;SA-5;SA-6;SA-7;SA-8;SI-1;SI-2;SI-3;SI-4;SI-5;SI-6"),
  (0x1B04A, "HENTAIGANA LETTER SU-", "1;2;3;4;5;6;7;8"),
  (0x1B052, "HENTAIGANA LETTER ", "SE-1;SE-2;SE-3;SE-4;SE-5;SO-1;SO-2;SO-3;SO-4;SO-5;SO-6;SO-7;TA-1;TA-2;TA-3;TA-4"),
  (0x1B062, "HENTAIGANA LETTER ", "TI-1;TI-2;TI-3;TI-4;TI-5;TI-6;TI-7;TU-1;TU-2;TU-3;TU-4;TU-TO"),
  (0x1B06E, "HENTAIGANA LETTER TE-", "1;2;3;4;5;6;7;8;9"), (0x1B077, "HENTAIGANA LETTER TO-", "1;2;3;4;5;6;RA"),
  (0x1B07E, "HENTAIGANA LETTER NA-", "1;2;3;4;5;6;7;8;9"), (0x1B087, "HENTAIGANA LETTER NI-", "1;2;3;4;5;6;7;TE"),
  (0x1B08F, "HENTAIGANA LETTER ", "NU-1;NU-2;NU-3;NE-1;NE-2;NE-3;NE-4;NE-5;NE-6;NE-KO;NO-1;NO-2;NO-3;NO-4;NO-5"),
  (0x1B09E, "HENTAIGANA LETTER HA-", "1;2;3;4;5;6;7;8;9;10;11"),
  (0x1B0A9, "HENTAIGANA LETTER ", "HI-1;HI-2;HI-3;HI-4;HI-5;HI-6;HI-7;HU-1;HU-2;HU-3"),
  (0x1B0B3, "HENTAIGANA LETTER HE-", "1;2;3;4;5;6;7"), (0x1B0BA, "HENTAIGANA LETTER HO-", "1;2;3;4;5;6;7;8"),
  (0x1B0C2, "HENTAIGANA LETTER ", "MA-1;MA-2;MA-3;MA-4;MA-5;MA-6;MA-7;MI-1;MI-2;MI-3;MI-4;MI-5;MI-6;MI-7;MU-1;MU-2"),
  (0x1B0D2, "HENTAIGANA LETTER ", "MU-3;MU-4;ME-1;ME-2;ME-MA;MO-1;MO-2;MO-3;MO-4;MO-5;MO-6;YA-1;YA-2;YA-3;YA-4;YA-5"),
  (0x1B0E2, "HENTAIGANA LETTER ", "YA-YO;YU-1;YU-2;YU-3;YU-4;YO-1;YO-2;YO-3;YO-4;YO-5;YO-6;RA-1;RA-2;RA-3;RA-4;RI-1"),
  (0x1B0F2, "HENTAIGANA LETTER ", "RI-2;RI-3;RI-4;RI-5;RI-6;RI-7;RU-1;RU-2;RU-3;RU-4;RU-5;RU-6;RE-1;RE-2;RE-3;RE-4"),
  (0x1B102, "HENTAIGANA LETTER ", "RO-1;RO-2;RO-3;RO-4;RO-5;RO-6;WA-1;WA-2;WA-3;WA-4;WA-5;WI-1;WI-2;WI-3;WI-4;WI-5"),
  (0x1B112, "HENTAIGANA LETTER ", "WE-1;WE-2;WE-3;WE-4;WO-1;WO-2;WO-3;WO-4;WO-5;WO-6;WO-7;N-MU-MO-1;N-MU-MO-2"),
  (0x1B11F, "HIRAGANA LETTER ARCHAIC ", "WU"), (0x1B120, "KATAKANA LETTER ARCHAIC ", "YI;YE;WU"),
  (0x1B150, "HIRAGANA LETTER SMALL ", "WI;WE;WO"), (0x1B164, "KATAKANA LETTER SMALL ", "WI;WE;WO;N"),
  (0x1BC00, "DUPLOYAN LETTER ", "H;X;P;T;F;K;L;B;D;V;G;R;P N;D S;F N;K M;R S;TH;SLOAN DH;DH;KK;SLOAN J;HL;LH;RH;M;N"),
  (0x1BC1B, "DUPLOYAN LETTER ", "J;S;M N;N M;J M;S J;M WITH DOT;N WITH DOT;J WITH DOT;J WITH DOTS INSIDE AND ABOVE"),
  (0x1BC25, "DUPLOYAN LETTER ", "S WITH DOT;S WITH DOT BELOW;M S;N S;J S;S S;M N S;N M S;J M S;S J S;J S WITH DOT"),
  (0x1BC30, "DUPLOYAN LETTER ", "J N;J N S;S T;S T R;S P;S P R;T S;T R S;W;WH;W R;S N;S M;K R S;G R S;S K;S K R;A"),
  (0x1BC42, "DUPLOYAN LETTER ", "SLOAN OW;OA;O;AOU;I;E;IE;SHORT I;UI;EE;SLOAN EH;ROMANIAN I;SLOAN EE;LONG I;YE;U;EU"),
  (0x1BC53, "DUPLOYAN LETTER ", "XW;U N;LONG U;ROMANIAN U;UH;SLOAN U;OOH;OW;OU;WA;WO;WI;WEI;WOW;NASAL U;NASAL O"),
  (0x1BC63, "DUPLOYAN LETTER ", "NASAL I;NASAL A;PERNIN AN;PERNIN AM;SLOAN EN;SLOAN AN;SLOAN ON;VOCALIC M"),
  (0x1BC70, "DUPLOYAN AFFIX ", "LEFT HORIZONTAL SECANT;MID HORIZONTAL SECANT;RIGHT HORIZONTAL SECANT"),
  (0x1BC73, "DUPLOYAN AFFIX ", "LOW VERTICAL SECANT;MID VERTICAL SECANT;HIGH VERTICAL SECANT"),
  (0x1BC76, "DUPLOYAN AFFIX ATTACHED ", "SECANT;LEFT-TO-RIGHT SECANT;TANGENT;TAIL;E HOOK;I HOOK;TANGENT HOOK"),
  (0x1BC80, "DUPLOYAN AFFIX HIGH ", "ACUTE;TIGHT ACUTE;GRAVE;LONG GRAVE;DOT;CIRCLE;LINE;WAVE;VERTICAL"),
  (0x1BC90, "DUPLOYAN AFFIX LOW ", "ACUTE;TIGHT ACUTE;GRAVE;LONG GRAVE;DOT;CIRCLE;LINE;WAVE;VERTICAL;ARROW"),
  (0x1BC9C, "DUPLOYAN ", "SIGN O WITH CROSS;THICK LETTER SELECTOR;DOUBLE MARK;PUNCTUATION CHINOOK FULL STOP"),
  (0x1BCA0, "SHORTHAND FORMAT ", "LETTER OVERLAP;CONTINUING OVERLAP;DOWN STEP;UP STEP"),
  (0x1CF00, "ZNAMENNY COMBINING MARK ", "GORAZDO NIZKO S KRYZHEM ON LEFT;NIZKO S KRYZHEM ON LEFT;TSATA ON LEFT"),
  (0x1CF03, "ZNAMENNY COMBINING MARK ", "GORAZDO NIZKO ON LEFT;NIZKO ON LEFT;SREDNE ON LEFT;MALO POVYSHE ON LEFT"),
  (0x1CF07, "ZNAMENNY COMBINING MARK ", "POVYSHE ON LEFT;VYSOKO ON LEFT;MALO POVYSHE S KHOKHLOM ON LEFT"),
  (0x1CF0A, "ZNAMENNY COMBINING MARK ", "POVYSHE S KHOKHLOM ON LEFT;VYSOKO S KHOKHLOM ON LEFT"),
  (0x1CF0C, "ZNAMENNY COMBINING MARK ", "GORAZDO NIZKO S KRYZHEM ON RIGHT;NIZKO S KRYZHEM ON RIGHT;TSATA ON RIGHT"),
  (0x1CF0F, "ZNAMENNY COMBINING MARK ", "GORAZDO NIZKO ON RIGHT;NIZKO ON RIGHT;SREDNE ON RIGHT"),
  (0x1CF12, "ZNAMENNY COMBINING MARK ", "MALO POVYSHE ON RIGHT;POVYSHE ON RIGHT;VYSOKO ON RIGHT"),
  (0x1CF15, "ZNAMENNY COMBINING MARK ", "MALO POVYSHE S KHOKHLOM ON RIGHT;POVYSHE S KHOKHLOM ON RIGHT"),
  (0x1CF17, "ZNAMENNY COMBINING MARK ", "VYSOKO S KHOKHLOM ON RIGHT;TSATA S KRYZHEM;MALO POVYSHE S KRYZHEM"),
  (0x1CF1A, "ZNAMENNY COMBINING MARK ", "STRANNO MALO POVYSHE;POVYSHE S KRYZHEM;POVYSHE STRANNO;VYSOKO S KRYZHEM"),
  (0x1CF1E, "ZNAMENNY COMBINING MARK ", "MALO POVYSHE STRANNO;GORAZDO VYSOKO;ZELO;ON;RAVNO;TIKHAYA;BORZAYA;UDARKA"),
  (0x1CF26, "ZNAMENNY COMBINING MARK ", "PODVERTKA;LOMKA;KUPNAYA;KACHKA;ZEVOK;SKOBA;RAZSEKA;KRYZH ON LEFT"),
  (0x1CF30, "ZNAMENNY COMBINING TONAL RANGE MARK ", "MRACHNO;SVETLO;TRESVETLO"),
  (0x1CF33, "ZNAMENNY COMBINING MARK ", "ZADERZHKA;DEMESTVENNY ZADERZHKA;OTSECHKA;PODCHASHIE"),
  (0x1CF37, "ZNAMENNY COMBINING MARK ", "PODCHASHIE WITH VERTICAL STROKE;CHASHKA;CHASHKA POLNAYA;OBLACHKO"),
  (0x1CF3B, "ZNAMENNY COMBINING MARK ", "SOROCHYA NOZHKA;TOCHKA;DVOETOCHIE"),
  (0x1CF3E, "ZNAMENNY COMBINING ", "ATTACHING VERTICAL OMET;MARK CURVED OMET;MARK KRYZH;LOWER TONAL RANGE INDICATOR"),
  (0x1CF42, "ZNAMENNY PRIZNAK MODIFIER ", "LEVEL-2;LEVEL-3;DIRECTION FLIP;KRYZH;ROG"),
  (0x1CF50, "ZNAMENNY NEUME ", "KRYUK;KRYUK TIKHY;PARAKLIT;DVA V CHELNU;KLYUCH;ZANOZHEK;STOPITSA;STOPITSA S OCHKOM"),
  (0x1CF58, "ZNAMENNY NEUME ", "PEREVODKA;PEREVODKA NEPOSTOYANNAYA;STOPITSA WITH SOROCHYA NOZHKA;CHELYUSTKA;PALKA"),
  (0x1CF5D, "ZNAMENNY NEUME ", "ZAPYATAYA"),
  (0x1CF5E, "ZNAMENNY NEUME GOLUBCHIK ", "BORZY;TIKHY;MRACHNY;SVETLY;TRESVETLY"),
  (0x1CF63, "ZNAMENNY NEUME VRAKHIYA ", "PROSTAYA;MRACHNAYA;SVETLAYA;TRESVETLAYA"),
  (0x1CF67, "ZNAMENNY NEUME VRAKHIYA KLYUCHEVAYA ", "PROSTAYA;MRACHNAYA;SVETLAYA;TRESVETLAYA"),
  (0x1CF6B, "ZNAMENNY NEUME ", "DOUBLE ZAPYATAYA;REVERSED CHELYUSTKA;DERBITSA;KHAMILO;CHASHKA;PODCHASHIE"),
  (0x1CF71, "ZNAMENNY NEUME SKAMEYTSA ", "MRACHNAYA;SVETLAYA;TRESVETLAYA;TIKHAYA"),
  (0x1CF75, "ZNAMENNY NEUME DEMESTVENNY ", "KLYUCH"),
  (0x1CF76, "ZNAMENNY NEUME SKAMEYTSA ", "KLYUCHEVAYA SVETLAYA;KLYUCHENEPOSTOYANNAYA;KLYUCHEVAYA TIKHAYA"),
  (0x1CF79, "ZNAMENNY NEUME SKAMEYTSA DVOECHELNAYA ", "PROSTAYA;SVETLAYA;NEPOSTOYANNAYA;KLYUCHEVAYA"),
  (0x1CF7D, "ZNAMENNY NEUME ", "SLOZHITIE;SLOZHITIE S ZAPYATOY;SLOZHITIE ZAKRYTOE;SLOZHITIE S KRYZHEM;KRYZH;ROG"),
  (0x1CF83, "ZNAMENNY NEUME ", "FITA;KOBYLA;ZMEYTSA;STATYA"),
  (0x1CF87, "ZNAMENNY NEUME STATYA ", "S ZAPYATOY;S KRYZHEM;S ZAPYATOY I KRYZHEM;S KRYZHEM I ZAPYATOY;ZAKRYTAYA"),
  (0x1CF8C, "ZNAMENNY NEUME STATYA ", "ZAKRYTAYA S ZAPYATOY;S ROGOM;S DVUMYA ZAPYATYMI;S ZAPYATOY I PODCHASHIEM"),
  (0x1CF90, "ZNAMENNY NEUME ", "POLKULIZMY;STATYA NEPOSTOYANNAYA;STRELA PROSTAYA;STRELA MRACHNOTIKHAYA"),
  (0x1CF94, "ZNAMENNY NEUME STRELA ", "KRYZHEVAYA;POLUPOVODNAYA;POVODNAYA;NEPOSTOYANNAYA;KLYUCHEPOVODNAYA"),
  (0x1CF99, "ZNAMENNY NEUME STRELA ", "KLYUCHENEPOSTOYANNAYA;TIKHAYA PUTNAYA;DVOECHELNAYA;DVOECHELNOKRYZHEVAYA"),
  (0x1CF9D, "ZNAMENNY NEUME STRELA ", "DVOECHELNOPOVODNAYA;DVOECHELNAYA KLYUCHEVAYA;DVOECHELNOPOVODNAYA KLYUCHEVAYA"),
  (0x1CFA0, "ZNAMENNY NEUME STRELA ", "GROMNAYA WITH SINGLE ZAPYATAYA;GROMOPOVODNAYA WITH SINGLE ZAPYATAYA;GROMNAYA"),
  (0x1CFA3, "ZNAMENNY NEUME STRELA ", "GROMOPOVODNAYA;GROMOPOVODNAYA WITH DOUBLE ZAPYATAYA;GROMOKRYZHEVAYA"),
  (0x1CFA6, "ZNAMENNY NEUME ", "STRELA GROMOKRYZHEVAYA POVODNAYA;MECHIK"),
  (0x1CFA8, "ZNAMENNY NEUME MECHIK ", "POVODNY;KLYUCHEVOY;KLYUCHEPOVODNY;KLYUCHENEPOSTOYANNY"),
  (0x1CFAC, "ZNAMENNY NEUME STRELA ", "TRYASOGLASNAYA;TRYASOPOVODNAYA;TRYASOSTRELNAYA"),
  (0x1CFAF, "ZNAMENNY NEUME ", "OSOKA;OSOKA SVETLAYA;OSOKA TRESVETLAYA;OSOKA KRYUKOVAYA SVETLAYA"),
  (0x1CFB3, "ZNAMENNY NEUME OSOKA KLYUCHEVAYA ", "SVETLAYA;NEPOSTOYANNAYA"),
  (0x1CFB5, "ZNAMENNY NEUME STRELA ", "KRYUKOVAYA;KRYUKOVAYA POVODNAYA;KRYUKOVAYA GROMNAYA WITH SINGLE ZAPYATAYA"),
  (0x1CFB8, "ZNAMENNY NEUME STRELA KRYUKOVAYA ", "GROMOPOVODNAYA WITH SINGLE ZAPYATAYA;GROMNAYA;GROMOPOVODNAYA"),
  (0x1CFBB, "ZNAMENNY NEUME STRELA KRYUKOVAYA ", "GROMOPOVODNAYA WITH DOUBLE ZAPYATAYA;GROMOKRYZHEVAYA"),
  (0x1CFBD, "ZNAMENNY NEUME STRELA KRYUKOVAYA ", "GROMOKRYZHEVAYA POVODNAYA;TRYASKA"),
  (0x1CFBF, "ZNAMENNY NEUME ", "KUFISMA;OBLAKO;DUDA;NEMKA;PAUK"),
  (0x1D000, "BYZANTINE MUSICAL SYMBOL ", "PSILI;DASEIA;PERISPOMENI;OXEIA EKFONITIKON;OXEIA DIPLI;VAREIA EKFONITIKON"),
  (0x1D006, "BYZANTINE MUSICAL SYMBOL ", "VAREIA DIPLI;KATHISTI;SYRMATIKI;PARAKLITIKI;YPOKRISIS;YPOKRISIS DIPLI"),
  (0x1D00C, "BYZANTINE MUSICAL SYMBOL ", "KREMASTI;APESO EKFONITIKON;EXO EKFONITIKON;TELEIA;KENTIMATA;APOSTROFOS"),
  (0x1D012, "BYZANTINE MUSICAL SYMBOL ", "APOSTROFOS DIPLI;SYNEVMA;THITA;OLIGON ARCHAION;GORGON ARCHAION;PSILON"),
  (0x1D018, "BYZANTINE MUSICAL SYMBOL ", "CHAMILON;VATHY;ISON ARCHAION;KENTIMA ARCHAION;KENTIMATA ARCHAION;SAXIMATA"),
  (0x1D01E, "BYZANTINE MUSICAL SYMBOL ", "PARICHON;STAVROS APODEXIA;OXEIAI ARCHAION;VAREIAI ARCHAION"),
  (0x1D022, "BYZANTINE MUSICAL SYMBOL ", "APODERMA ARCHAION;APOTHEMA;KLASMA;REVMA;PIASMA ARCHAION;TINAGMA"),
  (0x1D028, "BYZANTINE MUSICAL SYMBOL ", "ANATRICHISMA;SEISMA;SYNAGMA ARCHAION;SYNAGMA META STAVROU"),
  (0x1D02C, "BYZANTINE MUSICAL SYMBOL ", "OYRANISMA ARCHAION;THEMA;LEMOI;DYO;TRIA;TESSERA;KRATIMATA;APESO EXO NEO")]

/-- The names from U+1D034 on. -/
def names1D034 : List NameRow := [
  (0x1D034, "BYZANTINE MUSICAL SYMBOL ", "FTHORA ARCHAION;IMIFTHORA;TROMIKON ARCHAION;KATAVA TROMIKON;PELASTON"),
  (0x1D039, "BYZANTINE MUSICAL SYMBOL ", "PSIFISTON;KONTEVMA;CHOREVMA ARCHAION;RAPISMA;PARAKALESMA ARCHAION"),
  (0x1D03E, "BYZANTINE MUSICAL SYMBOL ", "PARAKLITIKI ARCHAION;ICHADIN;NANA;PETASMA;KONTEVMA ALLO;TROMIKON ALLO"),
  (0x1D044, "BYZANTINE MUSICAL SYMBOL ", "STRAGGISMATA;GRONTHISMATA;ISON NEO;OLIGON NEO;OXEIA NEO;PETASTI;KOUFISMA"),
  (0x1D04B, "BYZANTINE MUSICAL SYMBOL ", "PETASTOKOUFISMA;KRATIMOKOUFISMA;PELASTON NEO;KENTIMATA NEO ANO"),
  (0x1D04F, "BYZANTINE MUSICAL SYMBOL ", "KENTIMA NEO ANO;YPSILI;APOSTROFOS NEO;APOSTROFOI SYNDESMOS NEO;YPORROI"),
  (0x1D054, "BYZANTINE MUSICAL SYMBOL ", "KRATIMOYPORROON;ELAFRON;CHAMILI;MIKRON ISON;VAREIA NEO;PIASMA NEO"),
  (0x1D05A, "BYZANTINE MUSICAL SYMBOL ", "PSIFISTON NEO;OMALON;ANTIKENOMA;LYGISMA;PARAKLITIKI NEO;PARAKALESMA NEO"),
  (0x1D060, "BYZANTINE MUSICAL SYMBOL ", "ETERON PARAKALESMA;KYLISMA;ANTIKENOKYLISMA;TROMIKON NEO;EKSTREPTON"),
  (0x1D065, "BYZANTINE MUSICAL SYMBOL ", "SYNAGMA NEO;SYRMA;CHOREVMA NEO;EPEGERMA;SEISMA NEO;XIRON KLASMA"),
  (0x1D06B, "BYZANTINE MUSICAL SYMBOL ", "TROMIKOPSIFISTON;PSIFISTOLYGISMA;TROMIKOLYGISMA;TROMIKOPARAKALESMA"),
  (0x1D06F, "BYZANTINE MUSICAL SYMBOL ", "PSIFISTOPARAKALESMA;TROMIKOSYNAGMA;PSIFISTOSYNAGMA;GORGOSYNTHETON"),
  (0x1D073, "BYZANTINE MUSICAL SYMBOL ", "ARGOSYNTHETON;ETERON ARGOSYNTHETON;OYRANISMA NEO;THEMATISMOS ESO"),
  (0x1D077, "BYZANTINE MUSICAL SYMBOL ", "THEMATISMOS EXO;THEMA APLOUN;THES KAI APOTHES;KATAVASMA;ENDOFONON"),
  (0x1D07C, "BYZANTINE MUSICAL SYMBOL ", "YFEN KATO;YFEN ANO;STAVROS;KLASMA ANO;DIPLI ARCHAION;KRATIMA ARCHAION"),
  (0x1D082, "BYZANTINE MUSICAL SYMBOL ", "KRATIMA ALLO;KRATIMA NEO;APODERMA NEO;APLI;DIPLI;TRIPLI;TETRAPLI;KORONIS"),
  (0x1D08A, "BYZANTINE MUSICAL SYMBOL LEIMMA ", "ENOS CHRONOU;DYO CHRONON;TRION CHRONON;TESSARON CHRONON"),
  (0x1D08E, "BYZANTINE MUSICAL SYMBOL ", "LEIMMA IMISEOS CHRONOU;GORGON NEO ANO;GORGON PARESTIGMENON ARISTERA"),
  (0x1D091, "BYZANTINE MUSICAL SYMBOL ", "GORGON PARESTIGMENON DEXIA;DIGORGON"),
  (0x1D093, "BYZANTINE MUSICAL SYMBOL DIGORGON PARESTIGMENON ", "ARISTERA KATO;ARISTERA ANO;DEXIA"),
  (0x1D096, "BYZANTINE MUSICAL SYMBOL ", "TRIGORGON;ARGON;IMIDIARGON;DIARGON"),
  (0x1D09A, "BYZANTINE MUSICAL SYMBOL AGOGI ", "POLI ARGI;ARGOTERI;ARGI;METRIA;MESI;GORGI;GORGOTERI;POLI GORGI"),
  (0x1D0A2, "BYZANTINE MUSICAL SYMBOL MARTYRIA ", "PROTOS ICHOS;ALLI PROTOS ICHOS;DEYTEROS ICHOS"),
  (0x1D0A5, "BYZANTINE MUSICAL SYMBOL MARTYRIA ", "ALLI DEYTEROS ICHOS;TRITOS ICHOS;TRIFONIAS;TETARTOS ICHOS"),
  (0x1D0A9, "BYZANTINE MUSICAL SYMBOL MARTYRIA ", "TETARTOS LEGETOS ICHOS;LEGETOS ICHOS;PLAGIOS ICHOS"),
  (0x1D0AC, "BYZANTINE MUSICAL SYMBOL ", "ISAKIA TELOUS ICHIMATOS;APOSTROFOI TELOUS ICHIMATOS"),
  (0x1D0AE, "BYZANTINE MUSICAL SYMBOL FANEROSIS ", "TETRAFONIAS;MONOFONIAS;DIFONIAS"),
  (0x1D0B1, "BYZANTINE MUSICAL SYMBOL MARTYRIA ", "VARYS ICHOS;PROTOVARYS ICHOS;PLAGIOS TETARTOS ICHOS"),
  (0x1D0B4, "BYZANTINE MUSICAL SYMBOL ", "GORTHMIKON N APLOUN;GORTHMIKON N DIPLOUN;ENARXIS KAI FTHORA VOU;IMIFONON"),
  (0x1D0B8, "BYZANTINE MUSICAL SYMBOL ", "IMIFTHORON;FTHORA ARCHAION DEYTEROU ICHOU;FTHORA DIATONIKI PA"),
  (0x1D0BB, "BYZANTINE MUSICAL SYMBOL FTHORA ", "DIATONIKI NANA;NAOS ICHOS;DIATONIKI DI;SKLIRON DIATONON DI"),
  (0x1D0BF, "BYZANTINE MUSICAL SYMBOL FTHORA DIATONIKI ", "KE;ZO;NI KATO;NI ANO"),
  (0x1D0C3, "BYZANTINE MUSICAL SYMBOL FTHORA MALAKON CHROMA ", "DIFONIAS;MONOFONIAS"),
  (0x1D0C5, "BYZANTINE MUSICAL SYMBOL ", "FHTORA SKLIRON CHROMA VASIS;FTHORA SKLIRON CHROMA SYNAFI;FTHORA NENANO"),
  (0x1D0C8, "BYZANTINE MUSICAL SYMBOL ", "CHROA ZYGOS;CHROA KLITON;CHROA SPATHI;FTHORA I YFESIS TETARTIMORION"),
  (0x1D0CC, "BYZANTINE MUSICAL SYMBOL ", "FTHORA ENARMONIOS ANTIFONIA;YFESIS TRITIMORION;DIESIS TRITIMORION"),
  (0x1D0CF, "BYZANTINE MUSICAL SYMBOL DIESIS ", "TETARTIMORION;APLI DYO DODEKATA;MONOGRAMMOS TESSERA DODEKATA"),
  (0x1D0D2, "BYZANTINE MUSICAL SYMBOL DIESIS ", "DIGRAMMOS EX DODEKATA;TRIGRAMMOS OKTO DODEKATA"),
  (0x1D0D4, "BYZANTINE MUSICAL SYMBOL YFESIS ", "APLI DYO DODEKATA;MONOGRAMMOS TESSERA DODEKATA"),
  (0x1D0D6, "BYZANTINE MUSICAL SYMBOL YFESIS ", "DIGRAMMOS EX DODEKATA;TRIGRAMMOS OKTO DODEKATA"),
  (0x1D0D8, "BYZANTINE MUSICAL SYMBOL GENIKI ", "DIESIS;YFESIS"),
  (0x1D0DA, "BYZANTINE MUSICAL SYMBOL DIASTOLI ", "APLI MIKRI;APLI MEGALI;DIPLI;THESEOS"),
  (0x1D0DE, "BYZANTINE MUSICAL SYMBOL SIMANSIS ", "THESEOS;THESEOS DISIMOU;THESEOS TRISIMOU;THESEOS TETRASIMOU"),
  (0x1D0E2, "BYZANTINE MUSICAL SYMBOL SIMANSIS ", "ARSEOS;ARSEOS DISIMOU;ARSEOS TRISIMOU;ARSEOS TETRASIMOU"),
  (0x1D0E6, "BYZANTINE MUSICAL SYMBOL ", "DIGRAMMA GG;DIFTOGGOS OU;STIGMA"),
  (0x1D0E9, "BYZANTINE MUSICAL SYMBOL ARKTIKO ", "PA;VOU;GA;DI;KE;ZO;NI"),
  (0x1D0F0, "BYZANTINE MUSICAL SYMBOL ", "KENTIMATA NEO MESO;KENTIMA NEO MESO;KENTIMATA NEO KATO;KENTIMA NEO KATO"),
  (0x1D0F4, "BYZANTINE MUSICAL SYMBOL ", "KLASMA KATO;GORGON NEO KATO"),
  (0x1D100, "MUSICAL SYMBOL ", "SINGLE BARLINE;DOUBLE BARLINE;FINAL BARLINE;REVERSE FINAL BARLINE;DASHED BARLINE"),
  (0x1D105, "MUSICAL SYMBOL ", "SHORT BARLINE;LEFT REPEAT SIGN;RIGHT REPEAT SIGN;REPEAT DOTS;DAL SEGNO;DA CAPO"),
  (0x1D10B, "MUSICAL SYMBOL ", "SEGNO;CODA;REPEATED FIGURE-1;REPEATED FIGURE-2;REPEATED FIGURE-3;FERMATA"),
  (0x1D111, "MUSICAL SYMBOL ", "FERMATA BELOW;BREATH MARK;CAESURA;BRACE;BRACKET;ONE-LINE STAFF;TWO-LINE STAFF"),
  (0x1D118, "MUSICAL SYMBOL ", "THREE-LINE STAFF;FOUR-LINE STAFF;FIVE-LINE STAFF;SIX-LINE STAFF"),
  (0x1D11C, "MUSICAL SYMBOL ", "SIX-STRING FRETBOARD;FOUR-STRING FRETBOARD;G CLEF"),
  (0x1D11F, "MUSICAL SYMBOL G CLEF OTTAVA ", "ALTA;BASSA"),
  (0x1D121, "MUSICAL SYMBOL ", "C CLEF;F CLEF;F CLEF OTTAVA ALTA;F CLEF OTTAVA BASSA;DRUM CLEF-1;DRUM CLEF-2"),
  (0x1D129, "MUSICAL SYMBOL ", "MULTIPLE MEASURE REST;DOUBLE SHARP;DOUBLE FLAT;FLAT UP;FLAT DOWN;NATURAL UP"),
  (0x1D12F, "MUSICAL SYMBOL ", "NATURAL DOWN;SHARP UP;SHARP DOWN;QUARTER TONE SHARP;QUARTER TONE FLAT;COMMON TIME"),
  (0x1D135, "MUSICAL SYMBOL ", "CUT TIME;OTTAVA ALTA;OTTAVA BASSA;QUINDICESIMA ALTA;QUINDICESIMA BASSA;MULTI REST"),
  (0x1D13B, "MUSICAL SYMBOL ", "WHOLE REST;HALF REST;QUARTER REST;EIGHTH REST;SIXTEENTH REST;THIRTY-SECOND REST"),
  (0x1D141, "MUSICAL SYMBOL ", "SIXTY-FOURTH REST;ONE HUNDRED TWENTY-EIGHTH REST;X NOTEHEAD;PLUS NOTEHEAD"),
  (0x1D145, "MUSICAL SYMBOL ", "CIRCLE X NOTEHEAD;SQUARE NOTEHEAD WHITE;SQUARE NOTEHEAD BLACK"),
  (0x1D148, "MUSICAL SYMBOL TRIANGLE NOTEHEAD ", "UP WHITE;UP BLACK;LEFT WHITE;LEFT BLACK;RIGHT WHITE;RIGHT BLACK"),
  (0x1D14E, "MUSICAL SYMBOL TRIANGLE NOTEHEAD ", "DOWN WHITE;DOWN BLACK;UP RIGHT WHITE;UP RIGHT BLACK"),
  (0x1D152, "MUSICAL SYMBOL MOON NOTEHEAD ", "WHITE;BLACK"),
  (0x1D154, "MUSICAL SYMBOL TRIANGLE-ROUND NOTEHEAD DOWN ", "WHITE;BLACK"),
  (0x1D156, "MUSICAL SYMBOL ", "PARENTHESIS NOTEHEAD;VOID NOTEHEAD;NOTEHEAD BLACK;NULL NOTEHEAD"),
  (0x1D15A, "MUSICAL SYMBOL CLUSTER NOTEHEAD ", "WHITE;BLACK"),
  (0x1D15C, "MUSICAL SYMBOL ", "BREVE;WHOLE NOTE;HALF NOTE;QUARTER NOTE;EIGHTH NOTE;SIXTEENTH NOTE"),
  (0x1D162, "MUSICAL SYMBOL ", "THIRTY-SECOND NOTE;SIXTY-FOURTH NOTE;ONE HUNDRED TWENTY-EIGHTH NOTE"),
  (0x1D165, "MUSICAL SYMBOL COMBINING ", "STEM;SPRECHGESANG STEM;TREMOLO-1;TREMOLO-2;TREMOLO-3"),
  (0x1D16A, "MUSICAL SYMBOL FINGERED TREMOLO-", "1;2;3"),
  (0x1D16D, "MUSICAL SYMBOL COMBINING ", "AUGMENTATION DOT;FLAG-1;FLAG-2;FLAG-3;FLAG-4;FLAG-5"),
  (0x1D173, "MUSICAL SYMBOL ", "BEGIN BEAM;END BEAM;BEGIN TIE;END TIE;BEGIN SLUR;END SLUR;BEGIN PHRASE;END PHRASE"),
  (0x1D17B, "MUSICAL SYMBOL COMBINING ", "ACCENT;STACCATO;TENUTO;STACCATISSIMO;MARCATO;MARCATO-STACCATO"),
  (0x1D181, "MUSICAL SYMBOL ", "COMBINING ACCENT-STACCATO;COMBINING LOURE;ARPEGGIATO UP;ARPEGGIATO DOWN"),
  (0x1D185, "MUSICAL SYMBOL COMBINING ", "DOIT;RIP;FLIP;SMEAR;BEND;DOUBLE TONGUE;TRIPLE TONGUE"),
  (0x1D18C, "MUSICAL SYMBOL ", "RINFORZANDO;SUBITO;Z;PIANO;MEZZO;FORTE;CRESCENDO;DECRESCENDO;GRACE NOTE SLASH"),
  (0x1D195, "MUSICAL SYMBOL ", "GRACE NOTE NO SLASH;TR;TURN;INVERTED TURN;TURN SLASH;TURN UP"),
  (0x1D19B, "MUSICAL SYMBOL ORNAMENT STROKE-", "1;2;3;4;5;6;7;8;9;10;11"),
  (0x1D1A6, "MUSICAL SYMBOL ", "HAUPTSTIMME;NEBENSTIMME;END OF STIMME;DEGREE SLASH"),
  (0x1D1AA, "MUSICAL SYMBOL COMBINING ", "DOWN BOW;UP BOW;HARMONIC;SNAP PIZZICATO"),
  (0x1D1AE, "MUSICAL SYMBOL PEDAL ", "MARK;UP MARK"),
  (0x1D1B0, "MUSICAL SYMBOL ", "HALF PEDAL MARK;GLISSANDO UP;GLISSANDO DOWN;WITH FINGERNAILS;DAMP;DAMP ALL;MAXIMA"),
  (0x1D1B7, "MUSICAL SYMBOL ", "LONGA;BREVIS;SEMIBREVIS WHITE;SEMIBREVIS BLACK;MINIMA;MINIMA BLACK;SEMIMINIMA WHITE"),
  (0x1D1BE, "MUSICAL SYMBOL ", "SEMIMINIMA BLACK;FUSA WHITE;FUSA BLACK;LONGA PERFECTA REST;LONGA IMPERFECTA REST"),
  (0x1D1C3, "MUSICAL SYMBOL ", "BREVIS REST;SEMIBREVIS REST;MINIMA REST;SEMIMINIMA REST"),
  (0x1D1C7, "MUSICAL SYMBOL TEMPUS PERFECTUM CUM PROLATIONE ", "PERFECTA;IMPERFECTA;PERFECTA DIMINUTION-1"),
  (0x1D1CA, "MUSICAL SYMBOL TEMPUS IMPERFECTUM CUM PROLATIONE ", "PERFECTA;IMPERFECTA"),
  (0x1D1CC, "MUSICAL SYMBOL TEMPUS IMPERFECTUM CUM PROLATIONE IMPERFECTA DIMINUTION-", "1;2;3"),
  (0x1D1CF, "MUSICAL SYMBOL ", "CROIX;GREGORIAN C CLEF;GREGORIAN F CLEF;SQUARE B;VIRGA;PODATUS;CLIVIS;SCANDICUS"),
  (0x1D1D7, "MUSICAL SYMBOL ", "CLIMACUS;TORCULUS;PORRECTUS;PORRECTUS FLEXUS;SCANDICUS FLEXUS;TORCULUS RESUPINUS"),
  (0x1D1DD, "MUSICAL SYMBOL PES ", "SUBPUNCTIS"),
  (0x1D1DE, "MUSICAL SYMBOL KIEVAN ", "C CLEF;END OF PIECE;FINAL NOTE;RECITATIVE MARK;WHOLE NOTE;HALF NOTE"),
  (0x1D1E4, "MUSICAL SYMBOL KIEVAN QUARTER NOTE STEM ", "DOWN;UP"),
  (0x1D1E6, "MUSICAL SYMBOL ", "KIEVAN EIGHTH NOTE STEM DOWN;KIEVAN EIGHTH NOTE STEM UP;KIEVAN FLAT SIGN;SORI;KORON"),
  (0x1D200, "GREEK VOCAL NOTATION SYMBOL-", "1;2;3;4;5;6;7;8;9;10;11;12;13;14;15;16;17;18;19;20;21;22;23;24;50;51"),
  (0x1D21A, "GREEK VOCAL NOTATION SYMBOL-", "52;53;54"),
  (0x1D21D, "GREEK INSTRUMENTAL NOTATION SYMBOL-", "1;2;4;5;7;8;11;12;13;14;17;18;19;23;24;25;26;27;29;30;32;36;37"),
  (0x1D234, "GREEK INSTRUMENTAL NOTATION SYMBOL-", "38;39;40;42;43;45;47;48;49;50;51;52;53;54")]

/-- The names from U+1D242 on. -/
def names1D242 : List NameRow := [
  (0x1D242, "COMBINING GREEK MUSICAL ", "TRISEME;TETRASEME;PENTASEME"), (0x1D245, "GREEK MUSICAL ", "LEIMMA"),
  (0x1D2E0, "MAYAN NUMERAL ", "ZERO;ONE;TWO;THREE;FOUR;FIVE;SIX;SEVEN;EIGHT;NINE;TEN;ELEVEN;TWELVE;THIRTEEN"),
  (0x1D2EE, "MAYAN NUMERAL ", "FOURTEEN;FIFTEEN;SIXTEEN;SEVENTEEN;EIGHTEEN;NINETEEN"),
  (0x1D300, "MONOGRAM FOR ", "EARTH"),
  (0x1D301, "DIGRAM FOR ", "HEAVENLY EARTH;HUMAN EARTH;EARTHLY HEAVEN;EARTHLY HUMAN;EARTH"),
  (0x1D306, "TETRAGRAM FOR ", "CENTRE;FULL CIRCLE;MIRED;BARRIER;KEEPING SMALL;CONTRARIETY;ASCENT;OPPOSITION"),
  (0x1D30E, "TETRAGRAM FOR ", "BRANCHING OUT;DEFECTIVENESS OR DISTORTION;DIVERGENCE;YOUTHFULNESS;INCREASE"),
  (0x1D313, "TETRAGRAM FOR ", "PENETRATION;REACH;CONTACT;HOLDING BACK;WAITING;FOLLOWING;ADVANCE;RELEASE;RESISTANCE"),
  (0x1D31C, "TETRAGRAM FOR ", "EASE;JOY;CONTENTION;ENDEAVOUR;DUTIES;CHANGE;DECISIVENESS;BOLD RESOLUTION;PACKING"),
  (0x1D325, "TETRAGRAM FOR ", "LEGION;CLOSENESS;KINSHIP;GATHERING;STRENGTH;PURITY;FULLNESS;RESIDENCE;LAW OR MODEL"),
  (0x1D32E, "TETRAGRAM FOR ", "RESPONSE;GOING TO MEET;ENCOUNTERS;STOVE;GREATNESS;ENLARGEMENT;PATTERN;RITUAL;FLIGHT"),
  (0x1D337, "TETRAGRAM FOR ", "VASTNESS OR WASTING;CONSTANCY;MEASURE;ETERNITY;UNITY;DIMINISHMENT;CLOSED MOUTH"),
  (0x1D33E, "TETRAGRAM FOR ", "GUARDEDNESS;GATHERING IN;MASSING;ACCUMULATION;EMBELLISHMENT;DOUBT;WATCH;SINKING"),
  (0x1D346, "TETRAGRAM FOR ", "INNER;DEPARTURE;DARKENING;DIMMING;EXHAUSTION;SEVERANCE;STOPPAGE;HARDNESS;COMPLETION"),
  (0x1D34F, "TETRAGRAM FOR ", "CLOSURE;FAILURE;AGGRAVATION;COMPLIANCE;ON THE VERGE;DIFFICULTIES;LABOURING;FOSTERING"),
  (0x1D360, "COUNTING ROD UNIT DIGIT ", "ONE;TWO;THREE;FOUR;FIVE;SIX;SEVEN;EIGHT;NINE"),
  (0x1D369, "COUNTING ROD TENS DIGIT ", "ONE;TWO;THREE;FOUR;FIVE;SIX;SEVEN;EIGHT;NINE"),
  (0x1D372, "IDEOGRAPHIC TALLY MARK ", "ONE;TWO;THREE;FOUR;FIVE"), (0x1D377, "TALLY MARK ", "ONE;FIVE"),
  (0x1D400, "MATHEMATICAL BOLD CAPITAL ", "A;B;C;D;E;F;G;H;I;J;K;L;M;N;O;P;Q;R;S;T;U;V;W;X;Y;Z"),
  (0x1D41A, "MATHEMATICAL BOLD SMALL ", "A;B;C;D;E;F;G;H;I;J;K;L;M;N;O;P;Q;R;S;T;U;V;W;X;Y;Z"),
  (0x1D434, "MATHEMATICAL ITALIC CAPITAL ", "A;B;C;D;E;F;G;H;I;J;K;L;M;N;O;P;Q;R;S;T;U;V;W;X;Y;Z"),
  (0x1D44E, "MATHEMATICAL ITALIC SMALL ", "A;B;C;D;E;F;G"),
  (0x1D456, "MATHEMATICAL ITALIC SMALL ", "I;J;K;L;M;N;O;P;Q;R;S;T;U;V;W;X;Y;Z"),
  (0x1D468, "MATHEMATICAL BOLD ITALIC CAPITAL ", "A;B;C;D;E;F;G;H;I;J;K;L;M;N;O;P;Q;R;S;T;U;V;W;X;Y;Z"),
  (0x1D482, "MATHEMATICAL BOLD ITALIC SMALL ", "A;B;C;D;E;F;G;H;I;J;K;L;M;N;O;P;Q;R;S;T;U;V;W;X;Y;Z"),
  (0x1D49C, "MATHEMATICAL SCRIPT CAPITAL ", "A"), (0x1D49E, "MATHEMATICAL SCRIPT CAPITAL ", "C;D"),
  (0x1D4A2, "MATHEMATICAL SCRIPT CAPITAL ", "G"), (0x1D4A5, "MATHEMATICAL SCRIPT CAPITAL ", "J;K"),
  (0x1D4A9, "MATHEMATICAL SCRIPT CAPITAL ", "N;O;P;Q"), (0x1D4AE, "MATHEMATICAL SCRIPT CAPITAL ", "S;T;U;V;W;X;Y;Z"),
  (0x1D4B6, "MATHEMATICAL SCRIPT SMALL ", "A;B;C;D"), (0x1D4BB, "MATHEMATICAL SCRIPT SMALL ", "F"),
  (0x1D4BD, "MATHEMATICAL SCRIPT SMALL ", "H;I;J;K;L;M;N"),
  (0x1D4C5, "MATHEMATICAL SCRIPT SMALL ", "P;Q;R;S;T;U;V;W;X;Y;Z"),
  (0x1D4D0, "MATHEMATICAL BOLD SCRIPT CAPITAL ", "A;B;C;D;E;F;G;H;I;J;K;L;M;N;O;P;Q;R;S;T;U;V;W;X;Y;Z"),
  (0x1D4EA, "MATHEMATICAL BOLD SCRIPT SMALL ", "A;B;C;D;E;F;G;H;I;J;K;L;M;N;O;P;Q;R;S;T;U;V;W;X;Y;Z"),
  (0x1D504, "MATHEMATICAL FRAKTUR CAPITAL ", "A;B"), (0x1D507, "MATHEMATICAL FRAKTUR CAPITAL ", "D;E;F;G"),
  (0x1D50D, "MATHEMATICAL FRAKTUR CAPITAL ", "J;K;L;M;N;O;P;Q"),
  (0x1D516, "MATHEMATICAL FRAKTUR CAPITAL ", "S;T;U;V;W;X;Y"),
  (0x1D51E, "MATHEMATICAL FRAKTUR SMALL ", "A;B;C;D;E;F;G;H;I;J;K;L;M;N;O;P;Q;R;S;T;U;V;W;X;Y;Z"),
  (0x1D538, "MATHEMATICAL DOUBLE-STRUCK CAPITAL ", "A;B"), (0x1D53B, "MATHEMATICAL DOUBLE-STRUCK CAPITAL ", "D;E;F;G"),
  (0x1D540, "MATHEMATICAL DOUBLE-STRUCK CAPITAL ", "I;J;K;L;M"), (0x1D546, "MATHEMATICAL DOUBLE-STRUCK CAPITAL ", "O"),
  (0x1D54A, "MATHEMATICAL DOUBLE-STRUCK CAPITAL ", "S;T;U;V;W;X;Y"),
  (0x1D552, "MATHEMATICAL DOUBLE-STRUCK SMALL ", "A;B;C;D;E;F;G;H;I;J;K;L;M;N;O;P;Q;R;S;T;U;V;W;X;Y;Z"),
  (0x1D56C, "MATHEMATICAL BOLD FRAKTUR CAPITAL ", "A;B;C;D;E;F;G;H;I;J;K;L;M;N;O;P;Q;R;S;T;U;V;W;X;Y;Z"),
  (0x1D586, "MATHEMATICAL BOLD FRAKTUR SMALL ", "A;B;C;D;E;F;G;H;I;J;K;L;M;N;O;P;Q;R;S;T;U;V;W;X;Y;Z"),
  (0x1D5A0, "MATHEMATICAL SANS-SERIF CAPITAL ", "A;B;C;D;E;F;G;H;I;J;K;L;M;N;O;P;Q;R;S;T;U;V;W;X;Y;Z"),
  (0x1D5BA, "MATHEMATICAL SANS-SERIF SMALL ", "A;B;C;D;E;F;G;H;I;J;K;L;M;N;O;P;Q;R;S;T;U;V;W;X;Y;Z"),
  (0x1D5D4, "MATHEMATICAL SANS-SERIF BOLD CAPITAL ", "A;B;C;D;E;F;G;H;I;J;K;L;M;N;O;P;Q;R;S;T;U;V;W;X;Y;Z"),
  (0x1D5EE, "MATHEMATICAL SANS-SERIF BOLD SMALL ", "A;B;C;D;E;F;G;H;I;J;K;L;M;N;O;P;Q;R;S;T;U;V;W;X;Y;Z"),
  (0x1D608, "MATHEMATICAL SANS-SERIF ITALIC CAPITAL ", "A;B;C;D;E;F;G;H;I;J;K;L;M;N;O;P;Q;R;S;T;U;V;W;X;Y;Z"),
  (0x1D622, "MATHEMATICAL SANS-SERIF ITALIC SMALL ", "A;B;C;D;E;F;G;H;I;J;K;L;M;N;O;P;Q;R;S;T;U;V;W;X;Y;Z"),
  (0x1D63C, "MATHEMATICAL SANS-SERIF BOLD ITALIC CAPITAL ", "A;B;C;D;E;F;G;H;I;J;K;L;M;N;O;P;Q;R;S;T;U;V;W;X;Y;Z"),
  (0x1D656, "MATHEMATICAL SANS-SERIF BOLD ITALIC SMALL ", "A;B;C;D;E;F;G;H;I;J;K;L;M;N;O;P;Q;R;S;T;U;V;W;X;Y;Z"),
  (0x1D670, "MATHEMATICAL MONOSPACE CAPITAL ", "A;B;C;D;E;F;G;H;I;J;K;L;M;N;O;P;Q;R;S;T;U;V;W;X;Y;Z"),
  (0x1D68A, "MATHEMATICAL MONOSPACE SMALL ", "A;B;C;D;E;F;G;H;I;J;K;L;M;N;O;P;Q;R;S;T;U;V;W;X;Y;Z"),
  (0x1D6A4, "MATHEMATICAL ITALIC SMALL DOTLESS ", "I;J"),
  (0x1D6A8, "MATHEMATICAL BOLD CAPITAL ", "ALPHA;BETA;GAMMA;DELTA;EPSILON;ZETA;ETA;THETA;IOTA;KAPPA;LAMDA;MU;NU;XI"),
  (0x1D6B6, "MATHEMATICAL BOLD CAPITAL ", "OMICRON;PI;RHO;THETA SYMBOL;SIGMA;TAU;UPSILON;PHI;CHI;PSI;OMEGA"),
  (0x1D6C1, "MATHEMATICAL BOLD ", "NABLA"),
  (0x1D6C2, "MATHEMATICAL BOLD SMALL ", "ALPHA;BETA;GAMMA;DELTA;EPSILON;ZETA;ETA;THETA;IOTA;KAPPA;LAMDA;MU;NU;XI"),
  (0x1D6D0, "MATHEMATICAL BOLD SMALL ", "OMICRON;PI;RHO;FINAL SIGMA;SIGMA;TAU;UPSILON;PHI;CHI;PSI;OMEGA"),
  (0x1D6DB, "MATHEMATICAL BOLD ", "PARTIAL DIFFERENTIAL;EPSILON SYMBOL;THETA SYMBOL;KAPPA SYMBOL;PHI SYMBOL"),
  (0x1D6E0, "MATHEMATICAL BOLD ", "RHO SYMBOL;PI SYMBOL"),
  (0x1D6E2, "MATHEMATICAL ITALIC CAPITAL ", "ALPHA;BETA;GAMMA;DELTA;EPSILON;ZETA;ETA;THETA;IOTA;KAPPA;LAMDA;MU;NU"),
  (0x1D6EF, "MATHEMATICAL ITALIC CAPITAL ", "XI;OMICRON;PI;RHO;THETA SYMBOL;SIGMA;TAU;UPSILON;PHI;CHI;PSI;OMEGA"),
  (0x1D6FB, "MATHEMATICAL ITALIC ", "NABLA"),
  (0x1D6FC, "MATHEMATICAL ITALIC SMALL ", "ALPHA;BETA;GAMMA;DELTA;EPSILON;ZETA;ETA;THETA;IOTA;KAPPA;LAMDA;MU;NU;XI"),
  (0x1D70A, "MATHEMATICAL ITALIC SMALL ", "OMICRON;PI;RHO;FINAL SIGMA;SIGMA;TAU;UPSILON;PHI;CHI;PSI;OMEGA"),
  (0x1D715, "MATHEMATICAL ITALIC ", "PARTIAL DIFFERENTIAL;EPSILON SYMBOL;THETA SYMBOL;KAPPA SYMBOL;PHI SYMBOL"),
  (0x1D71A, "MATHEMATICAL ITALIC ", "RHO SYMBOL;PI SYMBOL"),
  (0x1D71C, "MATHEMATICAL BOLD ITALIC CAPITAL ", "ALPHA;BETA;GAMMA;DELTA;EPSILON;ZETA;ETA;THETA;IOTA;KAPPA;LAMDA;MU"),
  (0x1D728, "MATHEMATICAL BOLD ITALIC CAPITAL ", "NU;XI;OMICRON;PI;RHO;THETA SYMBOL;SIGMA;TAU;UPSILON;PHI;CHI;PSI"),
  (0x1D734, "MATHEMATICAL BOLD ITALIC ", "CAPITAL OMEGA;NABLA;SMALL ALPHA"),
  (0x1D737, "MATHEMATICAL BOLD ITALIC SMALL ", "BETA;GAMMA;DELTA;EPSILON;ZETA;ETA;THETA;IOTA;KAPPA;LAMDA;MU;NU;XI"),
  (0x1D744, "MATHEMATICAL BOLD ITALIC SMALL ", "OMICRON;PI;RHO;FINAL SIGMA;SIGMA;TAU;UPSILON;PHI;CHI;PSI;OMEGA"),
  (0x1D74F, "MATHEMATICAL BOLD ITALIC ", "PARTIAL DIFFERENTIAL;EPSILON SYMBOL;THETA SYMBOL;KAPPA SYMBOL;PHI SYMBOL"),
  (0x1D754, "MATHEMATICAL BOLD ITALIC ", "RHO SYMBOL;PI SYMBOL"),
  (0x1D756, "MATHEMATICAL SANS-SERIF BOLD CAPITAL ", "ALPHA;BETA;GAMMA;DELTA;EPSILON;ZETA;ETA;THETA;IOTA;KAPPA"),
  (0x1D760, "MATHEMATICAL SANS-SERIF BOLD CAPITAL ", "LAMDA;MU;NU;XI;OMICRON;PI;RHO;THETA SYMBOL;SIGMA;TAU;UPSILON"),
  (0x1D76B, "MATHEMATICAL SANS-SERIF BOLD ", "CAPITAL PHI;CAPITAL CHI;CAPITAL PSI;CAPITAL OMEGA;NABLA;SMALL ALPHA"),
  (0x1D771, "MATHEMATICAL SANS-SERIF BOLD SMALL ", "BETA;GAMMA;DELTA;EPSILON;ZETA;ETA;THETA;IOTA;KAPPA;LAMDA;MU;NU"),
  (0x1D77D, "MATHEMATICAL SANS-SERIF BOLD SMALL ", "XI;OMICRON;PI;RHO;FINAL SIGMA;SIGMA;TAU;UPSILON;PHI;CHI;PSI"),
  (0x1D788, "MATHEMATICAL SANS-SERIF BOLD ", "SMALL OMEGA;PARTIAL DIFFERENTIAL;EPSILON SYMBOL;THETA SYMBOL"),
  (0x1D78C, "MATHEMATICAL SANS-SERIF BOLD ", "KAPPA SYMBOL;PHI SYMBOL;RHO SYMBOL;PI SYMBOL"),
  (0x1D790, "MATHEMATICAL SANS-SERIF BOLD ITALIC CAPITAL ", "ALPHA;BETA;GAMMA;DELTA;EPSILON;ZETA;ETA;THETA;IOTA"),
  (0x1D799, "MATHEMATICAL SANS-SERIF BOLD ITALIC CAPITAL ", "KAPPA;LAMDA;MU;NU;XI;OMICRON;PI;RHO;THETA SYMBOL;SIGMA"),
  (0x1D7A3, "MATHEMATICAL SANS-SERIF BOLD ITALIC CAPITAL ", "TAU;UPSILON;PHI;CHI;PSI;OMEGA"),
  (0x1D7A9, "MATHEMATICAL SANS-SERIF BOLD ITALIC ", "NABLA;SMALL ALPHA;SMALL BETA;SMALL GAMMA;SMALL DELTA"),
  (0x1D7AE, "MATHEMATICAL SANS-SERIF BOLD ITALIC SMALL ", "EPSILON;ZETA;ETA;THETA;IOTA;KAPPA;LAMDA;MU;NU;XI;OMICRON"),
  (0x1D7B9, "MATHEMATICAL SANS-SERIF BOLD ITALIC SMALL ", "PI;RHO;FINAL SIGMA;SIGMA;TAU;UPSILON;PHI;CHI;PSI;OMEGA"),
  (0x1D7C3, "MATHEMATICAL SANS-SERIF BOLD ITALIC ", "PARTIAL DIFFERENTIAL;EPSILON SYMBOL;THETA SYMBOL;KAPPA SYMBOL"),
  (0x1D7C7, "MATHEMATICAL SANS-SERIF BOLD ITALIC ", "PHI SYMBOL;RHO SYMBOL;PI SYMBOL"),
  (0x1D7CA, "MATHEMATICAL BOLD ", "CAPITAL DIGAMMA;SMALL DIGAMMA")]

/-- The names from U+1D7CE on. -/
def names1D7CE : List NameRow := [
  (0x1D7CE, "MATHEMATICAL BOLD DIGIT ", "ZERO;ONE;TWO;THREE;FOUR;FIVE;SIX;SEVEN;EIGHT;NINE"),
  (0x1D7D8, "MATHEMATICAL DOUBLE-STRUCK DIGIT ", "ZERO;ONE;TWO;THREE;FOUR;FIVE;SIX;SEVEN;EIGHT;NINE"),
  (0x1D7E2, "MATHEMATICAL SANS-SERIF DIGIT ", "ZERO;ONE;TWO;THREE;FOUR;FIVE;SIX;SEVEN;EIGHT;NINE"),
  (0x1D7EC, "MATHEMATICAL SANS-SERIF BOLD DIGIT ", "ZERO;ONE;TWO;THREE;FOUR;FIVE;SIX;SEVEN;EIGHT;NINE"),
  (0x1D7F6, "MATHEMATICAL MONOSPACE DIGIT ", "ZERO;ONE;TWO;THREE;FOUR;FIVE;SIX;SEVEN;EIGHT;NINE"),
  (0x1D800, "SIGNWRITING HAND-", "FIST INDEX;CIRCLE INDEX;CUP INDEX;OVAL INDEX;HINGE INDEX;ANGLE INDEX"),
  (0x1D806, "SIGNWRITING HAND-", "FIST INDEX BENT;CIRCLE INDEX BENT;FIST THUMB UNDER INDEX BENT"),
  (0x1D809, "SIGNWRITING HAND-FIST INDEX ", "RAISED KNUCKLE;CUPPED;HINGED;HINGED LOW"),
  (0x1D80D, "SIGNWRITING HAND-", "CIRCLE INDEX HINGE;FIST INDEX MIDDLE;CIRCLE INDEX MIDDLE"),
  (0x1D810, "SIGNWRITING HAND-FIST INDEX MIDDLE ", "BENT;RAISED KNUCKLES;HINGED"),
  (0x1D813, "SIGNWRITING HAND-FIST INDEX ", "UP MIDDLE HINGED;HINGED MIDDLE UP;MIDDLE CONJOINED"),
  (0x1D816, "SIGNWRITING HAND-FIST INDEX MIDDLE CONJOINED ", "INDEX BENT;MIDDLE BENT;CUPPED;HINGED"),
  (0x1D81A, "SIGNWRITING HAND-", "FIST INDEX MIDDLE CROSSED;CIRCLE INDEX MIDDLE CROSSED;FIST MIDDLE BENT OVER INDEX"),
  (0x1D81D, "SIGNWRITING HAND-FIST INDEX ", "BENT OVER MIDDLE;MIDDLE THUMB"),
  (0x1D81F, "SIGNWRITING HAND-", "CIRCLE INDEX MIDDLE THUMB;FIST INDEX MIDDLE STRAIGHT THUMB BENT"),
  (0x1D821, "SIGNWRITING HAND-FIST INDEX MIDDLE ", "BENT THUMB STRAIGHT;THUMB BENT;HINGED SPREAD THUMB SIDE"),
  (0x1D824, "SIGNWRITING HAND-FIST INDEX UP MIDDLE HINGED THUMB ", "SIDE;CONJOINED"),
  (0x1D826, "SIGNWRITING HAND-FIST INDEX ", "HINGED MIDDLE UP THUMB SIDE;MIDDLE UP SPREAD THUMB FORWARD"),
  (0x1D828, "SIGNWRITING HAND-FIST INDEX MIDDLE THUMB ", "CUPPED;CIRCLED;HOOKED;HINGED"),
  (0x1D82C, "SIGNWRITING HAND-FIST THUMB BETWEEN INDEX MIDDLE ", "STRAIGHT"),
  (0x1D82D, "SIGNWRITING HAND-FIST INDEX MIDDLE CONJOINED THUMB ", "SIDE;SIDE CONJOINED;SIDE BENT"),
  (0x1D830, "SIGNWRITING HAND-FIST ", "MIDDLE THUMB HOOKED INDEX UP;INDEX THUMB HOOKED MIDDLE UP"),
  (0x1D832, "SIGNWRITING HAND-FIST INDEX MIDDLE ", "CONJOINED HINGED THUMB SIDE;CROSSED THUMB SIDE"),
  (0x1D834, "SIGNWRITING HAND-FIST INDEX MIDDLE CONJOINED ", "THUMB FORWARD;CUPPED THUMB FORWARD"),
  (0x1D836, "SIGNWRITING HAND-FIST ", "MIDDLE THUMB CUPPED INDEX UP;INDEX THUMB CUPPED MIDDLE UP"),
  (0x1D838, "SIGNWRITING HAND-FIST MIDDLE THUMB CIRCLED INDEX ", "UP;HINGED"),
  (0x1D83A, "SIGNWRITING HAND-FIST INDEX THUMB ", "ANGLED OUT MIDDLE UP;ANGLED IN MIDDLE UP;CIRCLED MIDDLE UP"),
  (0x1D83D, "SIGNWRITING HAND-FIST INDEX MIDDLE THUMB ", "CONJOINED HINGED;ANGLED OUT;ANGLED"),
  (0x1D840, "SIGNWRITING HAND-FIST MIDDLE THUMB ANGLED ", "OUT INDEX UP;OUT INDEX CROSSED;INDEX UP"),
  (0x1D843, "SIGNWRITING HAND-", "FIST INDEX THUMB HOOKED MIDDLE HINGED;FLAT FOUR FINGERS"),
  (0x1D845, "SIGNWRITING HAND-FLAT FOUR FINGERS ", "BENT;HINGED;CONJOINED;CONJOINED SPLIT"),
  (0x1D849, "SIGNWRITING HAND-", "CLAW FOUR FINGERS CONJOINED;FIST FOUR FINGERS CONJOINED BENT"),
  (0x1D84B, "SIGNWRITING HAND-HINGE FOUR FINGERS ", "CONJOINED"),
  (0x1D84C, "SIGNWRITING HAND-FLAT ", "FIVE FINGERS SPREAD;HEEL FIVE FINGERS SPREAD;FIVE FINGERS SPREAD FOUR BENT"),
  (0x1D84F, "SIGNWRITING HAND-FLAT ", "HEEL FIVE FINGERS SPREAD FOUR BENT;FIVE FINGERS SPREAD BENT"),
  (0x1D851, "SIGNWRITING HAND-FLAT ", "HEEL FIVE FINGERS SPREAD BENT;FIVE FINGERS SPREAD THUMB FORWARD"),
  (0x1D853, "SIGNWRITING HAND-CUP FIVE FINGERS ", "SPREAD;SPREAD OPEN"),
  (0x1D855, "SIGNWRITING HAND-", "HINGE FIVE FINGERS SPREAD OPEN;OVAL FIVE FINGERS SPREAD"),
  (0x1D857, "SIGNWRITING HAND-FLAT FIVE FINGERS SPREAD ", "HINGED;HINGED THUMB SIDE;HINGED NO THUMB"),
  (0x1D85A, "SIGNWRITING HAND-", "FLAT;FLAT BETWEEN PALM FACINGS;FLAT HEEL"),
  (0x1D85D, "SIGNWRITING HAND-FLAT ", "THUMB SIDE;HEEL THUMB SIDE;THUMB BENT;THUMB FORWARD;SPLIT INDEX THUMB SIDE"),
  (0x1D862, "SIGNWRITING HAND-FLAT SPLIT ", "CENTRE;CENTRE THUMB SIDE;CENTRE THUMB SIDE BENT;LITTLE"),
  (0x1D866, "SIGNWRITING HAND-", "CLAW;CLAW THUMB SIDE;CLAW NO THUMB;CLAW THUMB FORWARD;HOOK CURLICUE;HOOK;CUP OPEN"),
  (0x1D86D, "SIGNWRITING HAND-", "CUP;CUP OPEN THUMB SIDE;CUP THUMB SIDE;CUP OPEN NO THUMB;CUP NO THUMB"),
  (0x1D872, "SIGNWRITING HAND-", "CUP OPEN THUMB FORWARD;CUP THUMB FORWARD;CURLICUE OPEN;CURLICUE;CIRCLE;OVAL"),
  (0x1D878, "SIGNWRITING HAND-", "OVAL THUMB SIDE;OVAL NO THUMB;OVAL THUMB FORWARD;HINGE OPEN"),
  (0x1D87C, "SIGNWRITING HAND-", "HINGE OPEN THUMB FORWARD;HINGE;HINGE SMALL;HINGE OPEN THUMB SIDE;HINGE THUMB SIDE"),
  (0x1D881, "SIGNWRITING HAND-HINGE ", "OPEN NO THUMB;NO THUMB;THUMB SIDE TOUCHING INDEX;THUMB BETWEEN MIDDLE RING"),
  (0x1D885, "SIGNWRITING HAND-", "ANGLE;FIST INDEX MIDDLE RING;CIRCLE INDEX MIDDLE RING;HINGE INDEX MIDDLE RING"),
  (0x1D889, "SIGNWRITING HAND-", "ANGLE INDEX MIDDLE RING;HINGE LITTLE;FIST INDEX MIDDLE RING BENT"),
  (0x1D88C, "SIGNWRITING HAND-", "FIST INDEX MIDDLE RING CONJOINED;HINGE INDEX MIDDLE RING CONJOINED"),
  (0x1D88E, "SIGNWRITING HAND-FIST LITTLE ", "DOWN;DOWN RIPPLE STRAIGHT;DOWN RIPPLE CURVED;DOWN OTHERS CIRCLED;UP"),
  (0x1D893, "SIGNWRITING HAND-", "FIST THUMB UNDER LITTLE UP;CIRCLE LITTLE UP;OVAL LITTLE UP;ANGLE LITTLE UP"),
  (0x1D897, "SIGNWRITING HAND-FIST LITTLE ", "RAISED KNUCKLE;BENT;TOUCHES THUMB;THUMB"),
  (0x1D89B, "SIGNWRITING HAND-", "HINGE LITTLE THUMB;FIST LITTLE INDEX THUMB;HINGE LITTLE INDEX THUMB"),
  (0x1D89E, "SIGNWRITING HAND-ANGLE LITTLE INDEX THUMB INDEX ", "THUMB OUT;THUMB"),
  (0x1D8A0, "SIGNWRITING HAND-", "FIST LITTLE INDEX;CIRCLE LITTLE INDEX;HINGE LITTLE INDEX;ANGLE LITTLE INDEX"),
  (0x1D8A4, "SIGNWRITING HAND-", "FIST INDEX MIDDLE LITTLE;CIRCLE INDEX MIDDLE LITTLE;HINGE INDEX MIDDLE LITTLE"),
  (0x1D8A7, "SIGNWRITING HAND-", "HINGE RING;ANGLE INDEX MIDDLE LITTLE;FIST INDEX MIDDLE CROSS LITTLE"),
  (0x1D8AA, "SIGNWRITING HAND-", "CIRCLE INDEX MIDDLE CROSS LITTLE;FIST RING DOWN"),
  (0x1D8AC, "SIGNWRITING HAND-", "HINGE RING DOWN INDEX THUMB HOOK MIDDLE;ANGLE RING DOWN MIDDLE THUMB INDEX CROSS"),
  (0x1D8AE, "SIGNWRITING HAND-FIST RING ", "UP;RAISED KNUCKLE;LITTLE"),
  (0x1D8B1, "SIGNWRITING HAND-", "CIRCLE RING LITTLE;OVAL RING LITTLE;ANGLE RING LITTLE"),
  (0x1D8B4, "SIGNWRITING HAND-FIST RING ", "MIDDLE;MIDDLE CONJOINED;MIDDLE RAISED KNUCKLES;INDEX;THUMB"),
  (0x1D8B9, "SIGNWRITING HAND-", "HOOK RING THUMB;FIST INDEX RING LITTLE;CIRCLE INDEX RING LITTLE"),
  (0x1D8BC, "SIGNWRITING HAND-CURLICUE INDEX RING LITTLE ", "ON"),
  (0x1D8BD, "SIGNWRITING HAND-HOOK INDEX RING LITTLE ", "OUT;IN;UNDER"),
  (0x1D8C0, "SIGNWRITING HAND-", "CUP INDEX RING LITTLE;HINGE INDEX RING LITTLE"),
  (0x1D8C2, "SIGNWRITING HAND-ANGLE INDEX RING ", "LITTLE OUT;LITTLE"),
  (0x1D8C4, "SIGNWRITING HAND-", "FIST MIDDLE DOWN;HINGE MIDDLE;FIST MIDDLE UP;CIRCLE MIDDLE UP"),
  (0x1D8C8, "SIGNWRITING HAND-", "FIST MIDDLE RAISED KNUCKLE;FIST MIDDLE UP THUMB SIDE;HOOK MIDDLE THUMB"),
  (0x1D8CB, "SIGNWRITING HAND-FIST MIDDLE ", "THUMB LITTLE;LITTLE;RING LITTLE"),
  (0x1D8CE, "SIGNWRITING HAND-", "CIRCLE MIDDLE RING LITTLE;CURLICUE MIDDLE RING LITTLE ON;CUP MIDDLE RING LITTLE"),
  (0x1D8D1, "SIGNWRITING HAND-", "HINGE MIDDLE RING LITTLE;ANGLE MIDDLE RING LITTLE OUT;ANGLE MIDDLE RING LITTLE IN"),
  (0x1D8D4, "SIGNWRITING HAND-", "ANGLE MIDDLE RING LITTLE;CIRCLE MIDDLE RING LITTLE BENT"),
  (0x1D8D6, "SIGNWRITING HAND-CLAW MIDDLE RING LITTLE ", "CONJOINED;CONJOINED SIDE"),
  (0x1D8D8, "SIGNWRITING HAND-HOOK MIDDLE RING LITTLE ", "CONJOINED OUT;CONJOINED IN;CONJOINED"),
  (0x1D8DB, "SIGNWRITING HAND-", "HINGE INDEX HINGED;FIST INDEX THUMB SIDE;HINGE INDEX THUMB SIDE"),
  (0x1D8DE, "SIGNWRITING HAND-FIST INDEX THUMB SIDE ", "THUMB DIAGONAL;THUMB CONJOINED;THUMB BENT;INDEX BENT"),
  (0x1D8E2, "SIGNWRITING HAND-FIST INDEX THUMB ", "SIDE BOTH BENT;SIDE INDEX HINGE;FORWARD INDEX STRAIGHT"),
  (0x1D8E5, "SIGNWRITING HAND-FIST INDEX THUMB ", "FORWARD INDEX BENT;HOOK;CURLICUE;CURVE THUMB INSIDE"),
  (0x1D8E9, "SIGNWRITING HAND-", "CLAW INDEX THUMB CURVE THUMB INSIDE;FIST INDEX THUMB CURVE THUMB UNDER"),
  (0x1D8EB, "SIGNWRITING HAND-", "FIST INDEX THUMB CIRCLE;CUP INDEX THUMB;CUP INDEX THUMB OPEN"),
  (0x1D8EE, "SIGNWRITING HAND-HINGE INDEX ", "THUMB OPEN;THUMB LARGE;THUMB;THUMB SMALL"),
  (0x1D8F2, "SIGNWRITING HAND-", "ANGLE INDEX THUMB OUT;ANGLE INDEX THUMB IN;ANGLE INDEX THUMB;FIST THUMB"),
  (0x1D8F6, "SIGNWRITING HAND-FIST THUMB ", "HEEL;SIDE DIAGONAL;SIDE CONJOINED;SIDE BENT;FORWARD"),
  (0x1D8FB, "SIGNWRITING HAND-FIST THUMB BETWEEN ", "INDEX MIDDLE;MIDDLE RING;RING LITTLE"),
  (0x1D8FE, "SIGNWRITING HAND-FIST THUMB ", "UNDER TWO FINGERS;OVER TWO FINGERS;UNDER THREE FINGERS"),
  (0x1D901, "SIGNWRITING HAND-", "FIST THUMB UNDER FOUR FINGERS;FIST THUMB OVER FOUR RAISED KNUCKLES;FIST;FIST HEEL"),
  (0x1D905, "SIGNWRITING ", "TOUCH SINGLE;TOUCH MULTIPLE;TOUCH BETWEEN;GRASP SINGLE;GRASP MULTIPLE;GRASP BETWEEN"),
  (0x1D90B, "SIGNWRITING ", "STRIKE SINGLE;STRIKE MULTIPLE;STRIKE BETWEEN;BRUSH SINGLE;BRUSH MULTIPLE;BRUSH BETWEEN"),
  (0x1D911, "SIGNWRITING ", "RUB SINGLE;RUB MULTIPLE;RUB BETWEEN;SURFACE SYMBOLS;SURFACE BETWEEN"),
  (0x1D916, "SIGNWRITING SQUEEZE ", "LARGE SINGLE;SMALL SINGLE;LARGE MULTIPLE;SMALL MULTIPLE;SEQUENTIAL"),
  (0x1D91B, "SIGNWRITING FLICK ", "LARGE SINGLE;SMALL SINGLE;LARGE MULTIPLE;SMALL MULTIPLE;SEQUENTIAL"),
  (0x1D920, "SIGNWRITING SQUEEZE FLICK ", "ALTERNATING"),
  (0x1D921, "SIGNWRITING MOVEMENT-HINGE ", "UP DOWN LARGE;UP DOWN SMALL;UP SEQUENTIAL;DOWN SEQUENTIAL"),
  (0x1D925, "SIGNWRITING MOVEMENT-HINGE UP DOWN ALTERNATING ", "LARGE;SMALL"),
  (0x1D927, "SIGNWRITING MOVEMENT-", "HINGE SIDE TO SIDE SCISSORS;WALLPLANE FINGER CONTACT"),
  (0x1D929, "SIGNWRITING MOVEMENT-", "FLOORPLANE FINGER CONTACT;WALLPLANE SINGLE STRAIGHT SMALL"),
  (0x1D92B, "SIGNWRITING MOVEMENT-WALLPLANE SINGLE ", "STRAIGHT MEDIUM;STRAIGHT LARGE;STRAIGHT LARGEST;WRIST FLEX")]

/-- The names from U+1D92F on. -/
def names1D92F : List NameRow := [
  (0x1D92F, "SIGNWRITING MOVEMENT-WALLPLANE DOUBLE ", "STRAIGHT;WRIST FLEX;ALTERNATING;ALTERNATING WRIST FLEX"),
  (0x1D933, "SIGNWRITING MOVEMENT-WALLPLANE ", "CROSS;TRIPLE STRAIGHT MOVEMENT;TRIPLE WRIST FLEX;TRIPLE ALTERNATING"),
  (0x1D937, "SIGNWRITING MOVEMENT-WALLPLANE ", "TRIPLE ALTERNATING WRIST FLEX;BEND SMALL;BEND MEDIUM;BEND LARGE"),
  (0x1D93B, "SIGNWRITING MOVEMENT-WALLPLANE CORNER ", "SMALL;MEDIUM;LARGE;ROTATION"),
  (0x1D93F, "SIGNWRITING MOVEMENT-WALLPLANE ", "CHECK SMALL;CHECK MEDIUM;CHECK LARGE;BOX SMALL;BOX MEDIUM;BOX LARGE"),
  (0x1D945, "SIGNWRITING MOVEMENT-WALLPLANE ZIGZAG ", "SMALL;MEDIUM;LARGE"),
  (0x1D948, "SIGNWRITING MOVEMENT-WALLPLANE PEAKS ", "SMALL;MEDIUM;LARGE"),
  (0x1D94B, "SIGNWRITING TRAVEL-WALLPLANE ROTATION-WALLPLANE ", "SINGLE;DOUBLE;ALTERNATING"),
  (0x1D94E, "SIGNWRITING TRAVEL-WALLPLANE ROTATION-FLOORPLANE ", "SINGLE;DOUBLE;ALTERNATING"),
  (0x1D951, "SIGNWRITING TRAVEL-WALLPLANE ", "SHAKING;ARM SPIRAL SINGLE;ARM SPIRAL DOUBLE;ARM SPIRAL TRIPLE"),
  (0x1D955, "SIGNWRITING MOVEMENT-DIAGONAL AWAY ", "SMALL;MEDIUM;LARGE;LARGEST"),
  (0x1D959, "SIGNWRITING MOVEMENT-DIAGONAL TOWARDS ", "SMALL;MEDIUM;LARGE;LARGEST"),
  (0x1D95D, "SIGNWRITING MOVEMENT-DIAGONAL BETWEEN AWAY ", "SMALL;MEDIUM;LARGE;LARGEST"),
  (0x1D961, "SIGNWRITING MOVEMENT-DIAGONAL BETWEEN TOWARDS ", "SMALL;MEDIUM;LARGE;LARGEST"),
  (0x1D965, "SIGNWRITING MOVEMENT-FLOORPLANE SINGLE STRAIGHT ", "SMALL;MEDIUM;LARGE;LARGEST"),
  (0x1D969, "SIGNWRITING MOVEMENT-FLOORPLANE ", "SINGLE WRIST FLEX;DOUBLE STRAIGHT;DOUBLE WRIST FLEX"),
  (0x1D96C, "SIGNWRITING MOVEMENT-FLOORPLANE ", "DOUBLE ALTERNATING;DOUBLE ALTERNATING WRIST FLEX;CROSS"),
  (0x1D96F, "SIGNWRITING MOVEMENT-FLOORPLANE TRIPLE ", "STRAIGHT MOVEMENT;WRIST FLEX;ALTERNATING MOVEMENT"),
  (0x1D972, "SIGNWRITING MOVEMENT-FLOORPLANE ", "TRIPLE ALTERNATING WRIST FLEX;BEND;CORNER SMALL;CORNER MEDIUM"),
  (0x1D976, "SIGNWRITING MOVEMENT-FLOORPLANE ", "CORNER LARGE;CHECK;BOX SMALL;BOX MEDIUM;BOX LARGE;ZIGZAG SMALL"),
  (0x1D97C, "SIGNWRITING MOVEMENT-FLOORPLANE ", "ZIGZAG MEDIUM;ZIGZAG LARGE;PEAKS SMALL;PEAKS MEDIUM;PEAKS LARGE"),
  (0x1D981, "SIGNWRITING TRAVEL-FLOORPLANE ROTATION-FLOORPLANE ", "SINGLE;DOUBLE;ALTERNATING"),
  (0x1D984, "SIGNWRITING TRAVEL-FLOORPLANE ROTATION-WALLPLANE ", "SINGLE;DOUBLE;ALTERNATING"),
  (0x1D987, "SIGNWRITING TRAVEL-FLOORPLANE ", "SHAKING"),
  (0x1D988, "SIGNWRITING MOVEMENT-WALLPLANE CURVE QUARTER ", "SMALL;MEDIUM;LARGE;LARGEST"),
  (0x1D98C, "SIGNWRITING MOVEMENT-WALLPLANE CURVE HALF-CIRCLE ", "SMALL;MEDIUM;LARGE;LARGEST"),
  (0x1D990, "SIGNWRITING MOVEMENT-WALLPLANE CURVE THREE-QUARTER CIRCLE ", "SMALL;MEDIUM"),
  (0x1D992, "SIGNWRITING MOVEMENT-WALLPLANE HUMP ", "SMALL;MEDIUM;LARGE"),
  (0x1D995, "SIGNWRITING MOVEMENT-WALLPLANE LOOP ", "SMALL;MEDIUM;LARGE;SMALL DOUBLE"),
  (0x1D999, "SIGNWRITING MOVEMENT-WALLPLANE WAVE CURVE DOUBLE ", "SMALL;MEDIUM;LARGE"),
  (0x1D99C, "SIGNWRITING MOVEMENT-WALLPLANE WAVE CURVE TRIPLE ", "SMALL;MEDIUM;LARGE"),
  (0x1D99F, "SIGNWRITING MOVEMENT-WALLPLANE ", "CURVE THEN STRAIGHT;CURVED CROSS SMALL;CURVED CROSS MEDIUM"),
  (0x1D9A2, "SIGNWRITING ROTATION-WALLPLANE ", "SINGLE;DOUBLE;ALTERNATE"),
  (0x1D9A5, "SIGNWRITING MOVEMENT-WALLPLANE ", "SHAKING;CURVE HITTING FRONT WALL;HUMP HITTING FRONT WALL"),
  (0x1D9A8, "SIGNWRITING MOVEMENT-WALLPLANE ", "LOOP HITTING FRONT WALL;WAVE HITTING FRONT WALL"),
  (0x1D9AA, "SIGNWRITING ROTATION-WALLPLANE ", "SINGLE HITTING FRONT WALL;DOUBLE HITTING FRONT WALL"),
  (0x1D9AC, "SIGNWRITING ROTATION-WALLPLANE ALTERNATING HITTING FRONT ", "WALL"),
  (0x1D9AD, "SIGNWRITING MOVEMENT-WALLPLANE ", "CURVE HITTING CHEST;HUMP HITTING CHEST;LOOP HITTING CHEST"),
  (0x1D9B0, "SIGNWRITING MOVEMENT-WALLPLANE WAVE HITTING ", "CHEST"),
  (0x1D9B1, "SIGNWRITING ROTATION-WALLPLANE ", "SINGLE HITTING CHEST;DOUBLE HITTING CHEST;ALTERNATING HITTING CHEST"),
  (0x1D9B4, "SIGNWRITING MOVEMENT-WALLPLANE WAVE DIAGONAL PATH ", "SMALL;MEDIUM;LARGE"),
  (0x1D9B7, "SIGNWRITING MOVEMENT-FLOORPLANE CURVE HITTING CEILING ", "SMALL;LARGE"),
  (0x1D9B9, "SIGNWRITING MOVEMENT-FLOORPLANE HUMP HITTING CEILING ", "SMALL DOUBLE;LARGE DOUBLE;SMALL TRIPLE"),
  (0x1D9BC, "SIGNWRITING MOVEMENT-FLOORPLANE HUMP HITTING CEILING LARGE ", "TRIPLE"),
  (0x1D9BD, "SIGNWRITING MOVEMENT-FLOORPLANE LOOP HITTING CEILING ", "SMALL SINGLE;LARGE SINGLE;SMALL DOUBLE"),
  (0x1D9C0, "SIGNWRITING MOVEMENT-FLOORPLANE LOOP HITTING CEILING LARGE ", "DOUBLE"),
  (0x1D9C1, "SIGNWRITING MOVEMENT-FLOORPLANE WAVE HITTING CEILING ", "SMALL;LARGE"),
  (0x1D9C3, "SIGNWRITING ROTATION-FLOORPLANE ", "SINGLE HITTING CEILING;DOUBLE HITTING CEILING"),
  (0x1D9C5, "SIGNWRITING ROTATION-FLOORPLANE ALTERNATING HITTING ", "CEILING"),
  (0x1D9C6, "SIGNWRITING MOVEMENT-FLOORPLANE CURVE HITTING FLOOR ", "SMALL;LARGE"),
  (0x1D9C8, "SIGNWRITING MOVEMENT-FLOORPLANE HUMP HITTING FLOOR ", "SMALL DOUBLE;LARGE DOUBLE"),
  (0x1D9CA, "SIGNWRITING MOVEMENT-FLOORPLANE HUMP HITTING FLOOR TRIPLE ", "SMALL TRIPLE;LARGE TRIPLE"),
  (0x1D9CC, "SIGNWRITING MOVEMENT-FLOORPLANE LOOP HITTING FLOOR ", "SMALL SINGLE;LARGE SINGLE;SMALL DOUBLE"),
  (0x1D9CF, "SIGNWRITING MOVEMENT-FLOORPLANE ", "LOOP HITTING FLOOR LARGE DOUBLE;WAVE HITTING FLOOR SMALL"),
  (0x1D9D1, "SIGNWRITING ", "MOVEMENT-FLOORPLANE WAVE HITTING FLOOR LARGE;ROTATION-FLOORPLANE SINGLE HITTING FLOOR"),
  (0x1D9D3, "SIGNWRITING ROTATION-FLOORPLANE ", "DOUBLE HITTING FLOOR;ALTERNATING HITTING FLOOR"),
  (0x1D9D5, "SIGNWRITING MOVEMENT-FLOORPLANE CURVE ", "SMALL;MEDIUM;LARGE;LARGEST;COMBINED"),
  (0x1D9DA, "SIGNWRITING MOVEMENT-FLOORPLANE ", "HUMP SMALL;LOOP SMALL;WAVE SNAKE;WAVE SMALL;WAVE LARGE"),
  (0x1D9DF, "SIGNWRITING ROTATION-FLOORPLANE ", "SINGLE;DOUBLE;ALTERNATING"),
  (0x1D9E2, "SIGNWRITING MOVEMENT-FLOORPLANE SHAKING ", "PARALLEL"),
  (0x1D9E3, "SIGNWRITING MOVEMENT-WALLPLANE ARM CIRCLE ", "SMALL SINGLE;MEDIUM SINGLE;SMALL DOUBLE;MEDIUM DOUBLE"),
  (0x1D9E7, "SIGNWRITING MOVEMENT-FLOORPLANE ARM CIRCLE HITTING WALL ", "SMALL SINGLE;MEDIUM SINGLE;LARGE SINGLE"),
  (0x1D9EA, "SIGNWRITING MOVEMENT-FLOORPLANE ARM CIRCLE HITTING WALL ", "SMALL DOUBLE;MEDIUM DOUBLE;LARGE DOUBLE"),
  (0x1D9ED, "SIGNWRITING MOVEMENT-WALLPLANE WRIST CIRCLE FRONT ", "SINGLE;DOUBLE"),
  (0x1D9EF, "SIGNWRITING MOVEMENT-FLOORPLANE WRIST CIRCLE HITTING WALL ", "SINGLE;DOUBLE"),
  (0x1D9F1, "SIGNWRITING MOVEMENT-WALLPLANE FINGER CIRCLES ", "SINGLE;DOUBLE"),
  (0x1D9F3, "SIGNWRITING MOVEMENT-FLOORPLANE FINGER CIRCLES HITTING WALL ", "SINGLE;DOUBLE"),
  (0x1D9F5, "SIGNWRITING DYNAMIC ARROWHEAD ", "SMALL;LARGE"),
  (0x1D9F7, "SIGNWRITING DYNAMIC ", "FAST;SLOW;TENSE;RELAXED;SIMULTANEOUS;SIMULTANEOUS ALTERNATING;EVERY OTHER TIME"),
  (0x1D9FE, "SIGNWRITING ", "DYNAMIC GRADUAL;HEAD;HEAD RIM"),
  (0x1DA01, "SIGNWRITING HEAD MOVEMENT-", "WALLPLANE STRAIGHT;WALLPLANE TILT;FLOORPLANE STRAIGHT;WALLPLANE CURVE"),
  (0x1DA05, "SIGNWRITING HEAD ", "MOVEMENT-FLOORPLANE CURVE;MOVEMENT CIRCLE"),
  (0x1DA07, "SIGNWRITING FACE DIRECTION POSITION NOSE ", "FORWARD TILTING;UP OR DOWN;UP OR DOWN TILTING"),
  (0x1DA0A, "SIGNWRITING EYEBROWS STRAIGHT ", "UP;NEUTRAL;DOWN"),
  (0x1DA0D, "SIGNWRITING DREAMY EYEBROWS ", "NEUTRAL DOWN;DOWN NEUTRAL;UP NEUTRAL;NEUTRAL UP"),
  (0x1DA11, "SIGNWRITING FOREHEAD ", "NEUTRAL;CONTACT;WRINKLED"),
  (0x1DA14, "SIGNWRITING ", "EYES OPEN;EYES SQUEEZED;EYES CLOSED;EYE BLINK SINGLE;EYE BLINK MULTIPLE;EYES HALF OPEN"),
  (0x1DA1A, "SIGNWRITING ", "EYES WIDE OPEN;EYES HALF CLOSED;EYES WIDENING MOVEMENT;EYE WINK"),
  (0x1DA1E, "SIGNWRITING EYELASHES ", "UP;DOWN;FLUTTERING"),
  (0x1DA21, "SIGNWRITING EYEGAZE-WALLPLANE ", "STRAIGHT;STRAIGHT DOUBLE;STRAIGHT ALTERNATING"),
  (0x1DA24, "SIGNWRITING EYEGAZE-FLOORPLANE ", "STRAIGHT;STRAIGHT DOUBLE;STRAIGHT ALTERNATING"),
  (0x1DA27, "SIGNWRITING EYEGAZE-", "WALLPLANE CURVED;FLOORPLANE CURVED;WALLPLANE CIRCLING"),
  (0x1DA2A, "SIGNWRITING CHEEKS ", "PUFFED;NEUTRAL;SUCKED"), (0x1DA2D, "SIGNWRITING TENSE CHEEKS ", "HIGH;MIDDLE;LOW"),
  (0x1DA30, "SIGNWRITING ", "EARS;NOSE NEUTRAL;NOSE CONTACT;NOSE WRINKLES;NOSE WIGGLES"),
  (0x1DA35, "SIGNWRITING AIR ", "BLOWING OUT;SUCKING IN;BLOW SMALL ROTATIONS;SUCK SMALL ROTATIONS"),
  (0x1DA39, "SIGNWRITING BREATH ", "INHALE;EXHALE"), (0x1DA3B, "SIGNWRITING MOUTH CLOSED ", "NEUTRAL;FORWARD;CONTACT"),
  (0x1DA3E, "SIGNWRITING MOUTH ", "SMILE;SMILE WRINKLED;SMILE OPEN;FROWN;FROWN WRINKLED;FROWN OPEN;OPEN CIRCLE"),
  (0x1DA45, "SIGNWRITING MOUTH OPEN ", "FORWARD;WRINKLED;OVAL;OVAL WRINKLED;OVAL YAWN;RECTANGLE;RECTANGLE WRINKLED"),
  (0x1DA4C, "SIGNWRITING MOUTH ", "OPEN RECTANGLE YAWN;KISS;KISS FORWARD;KISS WRINKLED;TENSE;TENSE FORWARD"),
  (0x1DA52, "SIGNWRITING ", "MOUTH TENSE SUCKED;LIPS PRESSED TOGETHER;LIP LOWER OVER UPPER;LIP UPPER OVER LOWER"),
  (0x1DA56, "SIGNWRITING ", "MOUTH CORNERS;MOUTH WRINKLES SINGLE;MOUTH WRINKLES DOUBLE;TONGUE STICKING OUT FAR"),
  (0x1DA5A, "SIGNWRITING TONGUE ", "LICKING LIPS;TIP BETWEEN LIPS;TIP TOUCHING INSIDE MOUTH;INSIDE MOUTH RELAXED"),
  (0x1DA5E, "SIGNWRITING ", "TONGUE MOVES AGAINST CHEEK;TONGUE CENTRE STICKING OUT;TONGUE CENTRE INSIDE MOUTH;TEETH"),
  (0x1DA62, "SIGNWRITING TEETH ", "MOVEMENT;ON TONGUE;ON TONGUE MOVEMENT;ON LIPS;ON LIPS MOVEMENT;BITE LIPS"),
  (0x1DA68, "SIGNWRITING ", "MOVEMENT-WALLPLANE JAW;MOVEMENT-FLOORPLANE JAW;NECK;HAIR;EXCITEMENT"),
  (0x1DA6D, "SIGNWRITING SHOULDER HIP ", "SPINE;POSITIONS"),
  (0x1DA6F, "SIGNWRITING ", "WALLPLANE SHOULDER HIP MOVE;FLOORPLANE SHOULDER HIP MOVE;SHOULDER TILTING FROM WAIST"),
  (0x1DA72, "SIGNWRITING TORSO-WALLPLANE ", "STRAIGHT STRETCH;CURVED BEND")]

/-- The names from U+1DA74 on. -/
def names1DA74 : List NameRow := [
  (0x1DA74, "SIGNWRITING ", "TORSO-FLOORPLANE TWISTING;UPPER BODY TILTING FROM HIP JOINTS;LIMB COMBINATION"),
  (0x1DA77, "SIGNWRITING LIMB LENGTH-", "1;2;3;4;5;6;7"),
  (0x1DA7E, "SIGNWRITING ", "FINGER;LOCATION-WALLPLANE SPACE;LOCATION-FLOORPLANE SPACE"),
  (0x1DA81, "SIGNWRITING LOCATION ", "HEIGHT;WIDTH;DEPTH;HEAD NECK;TORSO;LIMBS DIGITS"),
  (0x1DA87, "SIGNWRITING ", "COMMA;FULL STOP;SEMICOLON;COLON;PARENTHESIS"),
  (0x1DA9B, "SIGNWRITING FILL MODIFIER-", "2;3;4;5;6"),
  (0x1DAA1, "SIGNWRITING ROTATION MODIFIER-", "2;3;4;5;6;7;8;9;10;11;12;13;14;15;16"),
  (0x1DF00, "LATIN SMALL LETTER ", "FENG DIGRAPH WITH TRILL;REVERSED SCRIPT G"),
  (0x1DF02, "LATIN ", "LETTER SMALL CAPITAL TURNED G;SMALL LETTER REVERSED K;LETTER SMALL CAPITAL L WITH BELT"),
  (0x1DF05, "LATIN SMALL LETTER ", "LEZH WITH RETROFLEX HOOK;TURNED Y WITH BELT;REVERSED ENG"),
  (0x1DF08, "LATIN SMALL LETTER ", "TURNED R WITH LONG LEG AND RETROFLEX HOOK;T WITH HOOK AND RETROFLEX HOOK"),
  (0x1DF0A, "LATIN LETTER RETROFLEX CLICK WITH RETROFLEX ", "HOOK"),
  (0x1DF0B, "LATIN SMALL LETTER ", "ESH WITH DOUBLE BAR;ESH WITH DOUBLE BAR AND CURL;TURNED T WITH CURL"),
  (0x1DF0E, "LATIN LETTER ", "INVERTED GLOTTAL STOP WITH CURL;STRETCHED C WITH CURL;SMALL CAPITAL TURNED K"),
  (0x1DF11, "LATIN SMALL LETTER ", "L WITH FISHHOOK;DEZH DIGRAPH WITH PALATAL HOOK;L WITH BELT AND PALATAL HOOK"),
  (0x1DF14, "LATIN SMALL LETTER ", "ENG WITH PALATAL HOOK;TURNED R WITH PALATAL HOOK"),
  (0x1DF16, "LATIN SMALL LETTER ", "R WITH FISHHOOK AND PALATAL HOOK;TESH DIGRAPH WITH PALATAL HOOK"),
  (0x1DF18, "LATIN SMALL LETTER ", "EZH WITH PALATAL HOOK;DEZH DIGRAPH WITH RETROFLEX HOOK"),
  (0x1DF1A, "LATIN SMALL LETTER ", "I WITH STROKE AND RETROFLEX HOOK;O WITH RETROFLEX HOOK"),
  (0x1DF1C, "LATIN SMALL LETTER ", "TESH DIGRAPH WITH RETROFLEX HOOK;C WITH RETROFLEX HOOK;S WITH CURL"),
  (0x1E000, "COMBINING GLAGOLITIC LETTER ", "AZU;BUKY;VEDE;GLAGOLI;DOBRO;YESTU;ZHIVETE"),
  (0x1E008, "COMBINING GLAGOLITIC LETTER ", "ZEMLJA;IZHE;INITIAL IZHE;I;DJERVI;KAKO;LJUDIJE;MYSLITE;NASHI;ONU"),
  (0x1E012, "COMBINING GLAGOLITIC LETTER ", "POKOJI;RITSI;SLOVO;TVRIDO;UKU;FRITU;HERU"),
  (0x1E01B, "COMBINING GLAGOLITIC LETTER ", "SHTA;TSI;CHRIVI;SHA;YERU;YERI;YATI"),
  (0x1E023, "COMBINING GLAGOLITIC LETTER ", "YU;SMALL YUS"),
  (0x1E026, "COMBINING GLAGOLITIC LETTER ", "YO;IOTATED SMALL YUS;BIG YUS;IOTATED BIG YUS;FITA"),
  (0x1E100, "NYIAKENG PUACHUE HMONG LETTER ", "MA;TSA;NTA;TA;HA;NA;XA;NKA;CA;LA;SA;ZA;NCA;NTSA;KA;DA;NYA;NRA;VA"),
  (0x1E113, "NYIAKENG PUACHUE HMONG LETTER ", "NTXA;TXA;FA;RA;QA;YA;NQA;PA;XYA;NPA;DLA;NPLA;HAH;MLA;PLA;GA;RRA;A;AA"),
  (0x1E126, "NYIAKENG PUACHUE HMONG LETTER ", "I;U;O;OO;E;EE;W"),
  (0x1E130, "NYIAKENG PUACHUE HMONG TONE-", "B;M;J;V;S;G;D"),
  (0x1E137, "NYIAKENG PUACHUE HMONG SIGN FOR ", "PERSON;THING;LOCATION;ANIMAL;INVERTEBRATE"),
  (0x1E13C, "NYIAKENG PUACHUE HMONG ", "SIGN XW XW;SYLLABLE LENGTHENER"),
  (0x1E140, "NYIAKENG PUACHUE HMONG DIGIT ", "ZERO;ONE;TWO;THREE;FOUR;FIVE;SIX;SEVEN;EIGHT;NINE"),
  (0x1E14E, "NYIAKENG PUACHUE HMONG ", "LOGOGRAM NYAJ;CIRCLED CA"),
  (0x1E290, "TOTO LETTER ", "PA;BA;TA;DA;KA;GA;MA;NA;NGA;SA;CHA;YA;WA;JA;HA;RA;LA;I;BREATHY I;IU;BREATHY IU;U;E"),
  (0x1E2A7, "TOTO LETTER ", "BREATHY E;EO;BREATHY EO;O;AE;BREATHY AE;A"), (0x1E2AE, "TOTO SIGN RISING ", "TONE"),
  (0x1E2C0, "WANCHO LETTER ", "AA;A;BA;CA;DA;GA;YA;PHA;LA;NA;PA;TA;THA;FA;SA;SHA;JA;ZA;WA;VA;KA;O;AU;RA;MA;KHA;HA;E"),
  (0x1E2DC, "WANCHO LETTER ", "I;NGA;U;LLHA;TSA;TRA;ONG;AANG;ANG;ING;ON;EN;AAN;NYA;UEN;YIH"),
  (0x1E2EC, "WANCHO TONE ", "TUP;TUPNI;KOI;KOINI"),
  (0x1E2F0, "WANCHO DIGIT ", "ZERO;ONE;TWO;THREE;FOUR;FIVE;SIX;SEVEN;EIGHT;NINE"), (0x1E2FF, "WANCHO NGUN ", "SIGN"),
  (0x1E7E0, "ETHIOPIC SYLLABLE ", "HHYA;HHYU;HHYI;HHYAA;HHYEE;HHYE;HHYO"),
  (0x1E7E8, "ETHIOPIC SYLLABLE ", "GURAGE HHWA;HHWI;HHWEE;HHWE"), (0x1E7ED, "ETHIOPIC SYLLABLE GURAGE ", "MWI;MWEE"),
  (0x1E7F0, "ETHIOPIC SYLLABLE GURAGE ", "QWI;QWEE;QWE;BWI;BWEE;KWI;KWEE;KWE;GWI;GWEE;GWE;FWI;FWEE;PWI;PWEE"),
  (0x1E800, "MENDE KIKAKUI SYLLABLE ", "M001 KI;M002 KA;M003 KU;M065 KEE;M095 KE;M076 KOO;M048 KO;M179 KUA;M004 WI"),
  (0x1E809, "MENDE KIKAKUI SYLLABLE ", "M005 WA;M006 WU;M126 WEE;M118 WE;M114 WOO;M045 WO;M194 WUI;M143 WEI"),
  (0x1E811, "MENDE KIKAKUI SYLLABLE ", "M061 WVI;M049 WVA;M139 WVE;M007 MIN;M008 MAN;M009 MUN;M059 MEN;M094 MON"),
  (0x1E819, "MENDE KIKAKUI SYLLABLE ", "M154 MUAN;M189 MUEN;M010 BI;M011 BA;M012 BU;M150 BEE;M097 BE;M103 BOO"),
  (0x1E821, "MENDE KIKAKUI SYLLABLE ", "M138 BO;M013 I;M014 A;M015 U;M163 EE;M100 E;M165 OO;M147 O;M137 EI;M131 IN"),
  (0x1E82B, "MENDE KIKAKUI SYLLABLE ", "M135 IN;M195 AN;M178 EN;M019 SI;M020 SA;M021 SU;M162 SEE;M116 SE;M136 SOO"),
  (0x1E834, "MENDE KIKAKUI SYLLABLE ", "M079 SO;M196 SIA;M025 LI;M026 LA;M027 LU;M084 LEE;M073 LE;M054 LOO;M153 LO"),
  (0x1E83D, "MENDE KIKAKUI SYLLABLE ", "M110 LONG LE;M016 DI;M017 DA;M018 DU;M089 DEE;M180 DOO;M181 DO;M022 TI"),
  (0x1E845, "MENDE KIKAKUI SYLLABLE ", "M023 TA;M024 TU;M091 TEE;M055 TE;M104 TOO;M069 TO;M028 JI;M029 JA;M030 JU"),
  (0x1E84E, "MENDE KIKAKUI SYLLABLE ", "M157 JEE;M113 JE;M160 JOO;M063 JO;M175 LONG JO;M031 YI;M032 YA;M033 YU"),
  (0x1E856, "MENDE KIKAKUI SYLLABLE ", "M109 YEE;M080 YE;M141 YOO;M121 YO;M034 FI;M035 FA;M036 FU;M078 FEE;M075 FE"),
  (0x1E85F, "MENDE KIKAKUI SYLLABLE ", "M133 FOO;M088 FO;M197 FUA;M101 FAN;M037 NIN;M038 NAN;M039 NUN;M117 NEN"),
  (0x1E867, "MENDE KIKAKUI SYLLABLE ", "M169 NON;M176 HI;M041 HA;M186 HU;M040 HEE;M096 HE;M042 HOO;M140 HO"),
  (0x1E86F, "MENDE KIKAKUI SYLLABLE ", "M083 HEEI;M128 HOOU;M053 HIN;M130 HAN;M087 HUN;M052 HEN;M193 HON;M046 HUAN"),
  (0x1E877, "MENDE KIKAKUI SYLLABLE ", "M090 NGGI;M043 NGGA;M082 NGGU;M115 NGGEE;M146 NGGE;M156 NGGOO;M120 NGGO"),
  (0x1E87E, "MENDE KIKAKUI SYLLABLE ", "M159 NGGAA;M127 NGGUA;M086 LONG NGGE;M106 LONG NGGOO;M183 LONG NGGO;M155 GI"),
  (0x1E884, "MENDE KIKAKUI SYLLABLE ", "M111 GA;M168 GU;M190 GEE;M166 GUEI;M167 GUAN;M184 NGEN;M057 NGON;M177 NGUAN"),
  (0x1E88C, "MENDE KIKAKUI SYLLABLE ", "M068 PI;M099 PA;M050 PU;M081 PEE;M051 PE;M102 POO;M066 PO;M145 MBI;M062 MBA"),
  (0x1E895, "MENDE KIKAKUI SYLLABLE ", "M122 MBU;M047 MBEE;M188 MBEE;M072 MBE;M172 MBOO;M174 MBO;M187 MBUU"),
  (0x1E89C, "MENDE KIKAKUI SYLLABLE ", "M161 LONG MBE;M105 LONG MBOO;M142 LONG MBO;M132 KPI;M092 KPA;M074 KPU"),
  (0x1E8A2, "MENDE KIKAKUI SYLLABLE ", "M044 KPEE;M108 KPE;M112 KPOO;M158 KPO;M124 GBI;M056 GBA;M148 GBU;M093 GBEE"),
  (0x1E8AA, "MENDE KIKAKUI SYLLABLE ", "M107 GBE;M071 GBOO;M070 GBO;M171 RA;M123 NDI;M129 NDA;M125 NDU;M191 NDEE"),
  (0x1E8B2, "MENDE KIKAKUI SYLLABLE ", "M119 NDE;M067 NDOO;M064 NDO;M152 NJA;M192 NJU;M149 NJEE;M134 NJOO;M182 VI"),
  (0x1E8BA, "MENDE KIKAKUI SYLLABLE ", "M185 VA;M151 VU;M173 VEE;M085 VE;M144 VOO;M077 VO;M164 NYIN;M058 NYAN"),
  (0x1E8C2, "MENDE KIKAKUI SYLLABLE ", "M170 NYUN;M098 NYEN;M060 NYON"),
  (0x1E8C7, "MENDE KIKAKUI DIGIT ", "ONE;TWO;THREE;FOUR;FIVE;SIX;SEVEN;EIGHT;NINE"),
  (0x1E8D0, "MENDE KIKAKUI COMBINING NUMBER ", "TEENS;TENS;HUNDREDS;THOUSANDS;TEN THOUSANDS;HUNDRED THOUSANDS"),
  (0x1E8D6, "MENDE KIKAKUI COMBINING NUMBER ", "MILLIONS"),
  (0x1E900, "ADLAM CAPITAL LETTER ", "ALIF;DAALI;LAAM;MIIM;BA;SINNYIIYHE;PE;BHE;RA;E;FA;I;O;DHA;YHE;WAW;NUN;KAF;YA"),
  (0x1E913, "ADLAM CAPITAL LETTER ", "U;JIIM;CHI;HA;QAAF;GA;NYA;TU;NHA;VA;KHA;GBE;ZAL;KPO;SHA"),
  (0x1E922, "ADLAM SMALL LETTER ", "ALIF;DAALI;LAAM;MIIM;BA;SINNYIIYHE;PE;BHE;RA;E;FA;I;O;DHA;YHE;WAW;NUN;KAF;YA;U"),
  (0x1E936, "ADLAM SMALL LETTER ", "JIIM;CHI;HA;QAAF;GA;NYA;TU;NHA;VA;KHA;GBE;ZAL;KPO;SHA"),
  (0x1E944, "ADLAM ", "ALIF LENGTHENER;VOWEL LENGTHENER;GEMINATION MARK;HAMZA;CONSONANT MODIFIER"),
  (0x1E949, "ADLAM ", "GEMINATE CONSONANT MODIFIER;NUKTA;NASALIZATION MARK"),
  (0x1E950, "ADLAM DIGIT ", "ZERO;ONE;TWO;THREE;FOUR;FIVE;SIX;SEVEN;EIGHT;NINE"),
  (0x1E95E, "ADLAM INITIAL ", "EXCLAMATION MARK;QUESTION MARK"),
  (0x1EC71, "INDIC SIYAQ NUMBER ", "ONE;TWO;THREE;FOUR;FIVE;SIX;SEVEN;EIGHT;NINE;TEN;TWENTY;THIRTY;FORTY;FIFTY"),
  (0x1EC7F, "INDIC SIYAQ NUMBER ", "SIXTY;SEVENTY;EIGHTY;NINETY;ONE HUNDRED;TWO HUNDRED;THREE HUNDRED;FOUR HUNDRED"),
  (0x1EC87, "INDIC SIYAQ NUMBER ", "FIVE HUNDRED;SIX HUNDRED;SEVEN HUNDRED;EIGHT HUNDRED;NINE HUNDRED;ONE THOUSAND"),
  (0x1EC8D, "INDIC SIYAQ NUMBER ", "TWO THOUSAND;THREE THOUSAND;FOUR THOUSAND;FIVE THOUSAND;SIX THOUSAND"),
  (0x1EC92, "INDIC SIYAQ NUMBER ", "SEVEN THOUSAND;EIGHT THOUSAND;NINE THOUSAND;TEN THOUSAND;TWENTY THOUSAND"),
  (0x1EC97, "INDIC SIYAQ NUMBER ", "THIRTY THOUSAND;FORTY THOUSAND;FIFTY THOUSAND;SIXTY THOUSAND;SEVENTY THOUSAND"),
  (0x1EC9C, "INDIC SIYAQ NUMBER ", "EIGHTY THOUSAND;NINETY THOUSAND;LAKH;LAKHAN"),
  (0x1ECA0, "INDIC SIYAQ ", "LAKH MARK;NUMBER KAROR;NUMBER KARORAN"),
  (0x1ECA3, "INDIC SIYAQ NUMBER PREFIXED ", "ONE;TWO;THREE;FOUR;FIVE;SIX;SEVEN;EIGHT;NINE"),
  (0x1ECAC, "INDIC SIYAQ ", "PLACEHOLDER;FRACTION ONE QUARTER;FRACTION ONE HALF;FRACTION THREE QUARTERS;RUPEE MARK"),
  (0x1ECB1, "INDIC SIYAQ NUMBER ALTERNATE ", "ONE;TWO;TEN THOUSAND"), (0x1ECB4, "INDIC SIYAQ ALTERNATE LAKH ", "MARK"),
  (0x1ED01, "OTTOMAN SIYAQ NUMBER ", "ONE;TWO;THREE;FOUR;FIVE;SIX;SEVEN;EIGHT;NINE;TEN;TWENTY;THIRTY;FORTY;FIFTY"),
  (0x1ED0F, "OTTOMAN SIYAQ NUMBER ", "SIXTY;SEVENTY;EIGHTY;NINETY;ONE HUNDRED;TWO HUNDRED;THREE HUNDRED"),
  (0x1ED16, "OTTOMAN SIYAQ NUMBER ", "FOUR HUNDRED;FIVE HUNDRED;SIX HUNDRED;SEVEN HUNDRED;EIGHT HUNDRED"),
  (0x1ED1B, "OTTOMAN SIYAQ NUMBER ", "NINE HUNDRED;ONE THOUSAND;TWO THOUSAND;THREE THOUSAND;FOUR THOUSAND"),
  (0x1ED20, "OTTOMAN SIYAQ NUMBER ", "FIVE THOUSAND;SIX THOUSAND;SEVEN THOUSAND;EIGHT THOUSAND;NINE THOUSAND"),
  (0x1ED25, "OTTOMAN SIYAQ NUMBER ", "TEN THOUSAND;TWENTY THOUSAND;THIRTY THOUSAND;FORTY THOUSAND;FIFTY THOUSAND")]

/-- The names from U+1ED2A on. -/
def names1ED2A : List NameRow := [
  (0x1ED2A, "OTTOMAN SIYAQ NUMBER ", "SIXTY THOUSAND;SEVENTY THOUSAND;EIGHTY THOUSAND;NINETY THOUSAND"),
  (0x1ED2E, "OTTOMAN SIYAQ ", "MARRATAN"),
  (0x1ED2F, "OTTOMAN SIYAQ ALTERNATE NUMBER ", "TWO;THREE;FOUR;FIVE;SIX;SEVEN;EIGHT;NINE;TEN;FOUR HUNDRED"),
  (0x1ED39, "OTTOMAN SIYAQ ALTERNATE NUMBER ", "SIX HUNDRED;TWO THOUSAND;TEN THOUSAND"),
  (0x1ED3C, "OTTOMAN SIYAQ FRACTION ONE ", "HALF;SIXTH"), (0x1EE00, "ARABIC MATHEMATICAL ", "ALEF;BEH;JEEM;DAL"),
  (0x1EE05, "ARABIC MATHEMATICAL ", "WAW;ZAIN;HAH;TAH;YEH;KAF;LAM;MEEM;NOON;SEEN;AIN;FEH;SAD;QAF;REH;SHEEN;TEH;THEH"),
  (0x1EE17, "ARABIC MATHEMATICAL ", "KHAH;THAL;DAD;ZAH;GHAIN;DOTLESS BEH;DOTLESS NOON;DOTLESS FEH;DOTLESS QAF"),
  (0x1EE21, "ARABIC MATHEMATICAL INITIAL ", "BEH;JEEM"), (0x1EE24, "ARABIC MATHEMATICAL INITIAL ", "HEH"),
  (0x1EE27, "ARABIC MATHEMATICAL INITIAL ", "HAH"),
  (0x1EE29, "ARABIC MATHEMATICAL INITIAL ", "YEH;KAF;LAM;MEEM;NOON;SEEN;AIN;FEH;SAD;QAF"),
  (0x1EE34, "ARABIC MATHEMATICAL INITIAL ", "SHEEN;TEH;THEH;KHAH"), (0x1EE39, "ARABIC MATHEMATICAL INITIAL ", "DAD"),
  (0x1EE3B, "ARABIC MATHEMATICAL INITIAL ", "GHAIN"), (0x1EE42, "ARABIC MATHEMATICAL TAILED ", "JEEM"),
  (0x1EE47, "ARABIC MATHEMATICAL TAILED ", "HAH"), (0x1EE49, "ARABIC MATHEMATICAL TAILED ", "YEH"),
  (0x1EE4B, "ARABIC MATHEMATICAL TAILED ", "LAM"), (0x1EE4D, "ARABIC MATHEMATICAL TAILED ", "NOON;SEEN;AIN"),
  (0x1EE51, "ARABIC MATHEMATICAL TAILED ", "SAD;QAF"), (0x1EE54, "ARABIC MATHEMATICAL TAILED ", "SHEEN"),
  (0x1EE57, "ARABIC MATHEMATICAL TAILED ", "KHAH"), (0x1EE59, "ARABIC MATHEMATICAL TAILED ", "DAD"),
  (0x1EE5B, "ARABIC MATHEMATICAL TAILED ", "GHAIN"), (0x1EE5D, "ARABIC MATHEMATICAL TAILED DOTLESS ", "NOON"),
  (0x1EE5F, "ARABIC MATHEMATICAL TAILED DOTLESS ", "QAF"), (0x1EE61, "ARABIC MATHEMATICAL STRETCHED ", "BEH;JEEM"),
  (0x1EE64, "ARABIC MATHEMATICAL STRETCHED ", "HEH"), (0x1EE67, "ARABIC MATHEMATICAL STRETCHED ", "HAH;TAH;YEH;KAF"),
  (0x1EE6C, "ARABIC MATHEMATICAL STRETCHED ", "MEEM;NOON;SEEN;AIN;FEH;SAD;QAF"),
  (0x1EE74, "ARABIC MATHEMATICAL STRETCHED ", "SHEEN;TEH;THEH;KHAH"),
  (0x1EE79, "ARABIC MATHEMATICAL STRETCHED ", "DAD;ZAH;GHAIN;DOTLESS BEH"),
  (0x1EE7E, "ARABIC MATHEMATICAL STRETCHED DOTLESS ", "FEH"),
  (0x1EE80, "ARABIC MATHEMATICAL LOOPED ", "ALEF;BEH;JEEM;DAL;HEH;WAW;ZAIN;HAH;TAH;YEH"),
  (0x1EE8B, "ARABIC MATHEMATICAL LOOPED ", "LAM;MEEM;NOON;SEEN;AIN;FEH;SAD;QAF;REH;SHEEN;TEH;THEH;KHAH;THAL;DAD;ZAH"),
  (0x1EE9B, "ARABIC MATHEMATICAL LOOPED ", "GHAIN"), (0x1EEA1, "ARABIC MATHEMATICAL DOUBLE-STRUCK ", "BEH;JEEM;DAL"),
  (0x1EEA5, "ARABIC MATHEMATICAL DOUBLE-STRUCK ", "WAW;ZAIN;HAH;TAH;YEH"),
  (0x1EEAB, "ARABIC MATHEMATICAL DOUBLE-STRUCK ", "LAM;MEEM;NOON;SEEN;AIN;FEH;SAD;QAF;REH;SHEEN;TEH;THEH;KHAH;THAL"),
  (0x1EEB9, "ARABIC MATHEMATICAL DOUBLE-STRUCK ", "DAD;ZAH;GHAIN"),
  (0x1EEF0, "ARABIC MATHEMATICAL OPERATOR ", "MEEM WITH HAH WITH TATWEEL;HAH WITH DAL"),
  (0x1F000, "MAHJONG TILE ", "EAST WIND;SOUTH WIND;WEST WIND;NORTH WIND;RED DRAGON;GREEN DRAGON;WHITE DRAGON"),
  (0x1F007, "MAHJONG TILE ", "ONE OF CHARACTERS;TWO OF CHARACTERS;THREE OF CHARACTERS;FOUR OF CHARACTERS"),
  (0x1F00B, "MAHJONG TILE ", "FIVE OF CHARACTERS;SIX OF CHARACTERS;SEVEN OF CHARACTERS;EIGHT OF CHARACTERS"),
  (0x1F00F, "MAHJONG TILE ", "NINE OF CHARACTERS;ONE OF BAMBOOS;TWO OF BAMBOOS;THREE OF BAMBOOS;FOUR OF BAMBOOS"),
  (0x1F014, "MAHJONG TILE ", "FIVE OF BAMBOOS;SIX OF BAMBOOS;SEVEN OF BAMBOOS;EIGHT OF BAMBOOS;NINE OF BAMBOOS"),
  (0x1F019, "MAHJONG TILE ", "ONE OF CIRCLES;TWO OF CIRCLES;THREE OF CIRCLES;FOUR OF CIRCLES;FIVE OF CIRCLES"),
  (0x1F01E, "MAHJONG TILE ", "SIX OF CIRCLES;SEVEN OF CIRCLES;EIGHT OF CIRCLES;NINE OF CIRCLES;PLUM;ORCHID;BAMBOO"),
  (0x1F025, "MAHJONG TILE ", "CHRYSANTHEMUM;SPRING;SUMMER;AUTUMN;WINTER;JOKER;BACK"),
  (0x1F030, "DOMINO TILE HORIZONTAL ", "BACK"), (0x1F031, "DOMINO TILE HORIZONTAL-00-", "00;01;02;03;04;05;06"),
  (0x1F038, "DOMINO TILE HORIZONTAL-01-", "00;01;02;03;04;05;06"),
  (0x1F03F, "DOMINO TILE HORIZONTAL-02-", "00;01;02;03;04;05;06"),
  (0x1F046, "DOMINO TILE HORIZONTAL-03-", "00;01;02;03;04;05;06"),
  (0x1F04D, "DOMINO TILE HORIZONTAL-04-", "00;01;02;03;04;05;06"),
  (0x1F054, "DOMINO TILE HORIZONTAL-05-", "00;01;02;03;04;05;06"),
  (0x1F05B, "DOMINO TILE HORIZONTAL-06-", "00;01;02;03;04;05;06"), (0x1F062, "DOMINO TILE VERTICAL ", "BACK"),
  (0x1F063, "DOMINO TILE VERTICAL-00-", "00;01;02;03;04;05;06"),
  (0x1F06A, "DOMINO TILE VERTICAL-01-", "00;01;02;03;04;05;06"),
  (0x1F071, "DOMINO TILE VERTICAL-02-", "00;01;02;03;04;05;06"),
  (0x1F078, "DOMINO TILE VERTICAL-03-", "00;01;02;03;04;05;06"),
  (0x1F07F, "DOMINO TILE VERTICAL-04-", "00;01;02;03;04;05;06"),
  (0x1F086, "DOMINO TILE VERTICAL-05-", "00;01;02;03;04;05;06"),
  (0x1F08D, "DOMINO TILE VERTICAL-06-", "00;01;02;03;04;05;06"),
  (0x1F0A0, "PLAYING CARD ", "BACK;ACE OF SPADES;TWO OF SPADES;THREE OF SPADES;FOUR OF SPADES;FIVE OF SPADES"),
  (0x1F0A6, "PLAYING CARD ", "SIX OF SPADES;SEVEN OF SPADES;EIGHT OF SPADES;NINE OF SPADES;TEN OF SPADES"),
  (0x1F0AB, "PLAYING CARD ", "JACK OF SPADES;KNIGHT OF SPADES;QUEEN OF SPADES;KING OF SPADES"),
  (0x1F0B1, "PLAYING CARD ", "ACE OF HEARTS;TWO OF HEARTS;THREE OF HEARTS;FOUR OF HEARTS;FIVE OF HEARTS"),
  (0x1F0B6, "PLAYING CARD ", "SIX OF HEARTS;SEVEN OF HEARTS;EIGHT OF HEARTS;NINE OF HEARTS;TEN OF HEARTS"),
  (0x1F0BB, "PLAYING CARD ", "JACK OF HEARTS;KNIGHT OF HEARTS;QUEEN OF HEARTS;KING OF HEARTS;RED JOKER"),
  (0x1F0C1, "PLAYING CARD ", "ACE OF DIAMONDS;TWO OF DIAMONDS;THREE OF DIAMONDS;FOUR OF DIAMONDS;FIVE OF DIAMONDS"),
  (0x1F0C6, "PLAYING CARD ", "SIX OF DIAMONDS;SEVEN OF DIAMONDS;EIGHT OF DIAMONDS;NINE OF DIAMONDS;TEN OF DIAMONDS"),
  (0x1F0CB, "PLAYING CARD ", "JACK OF DIAMONDS;KNIGHT OF DIAMONDS;QUEEN OF DIAMONDS;KING OF DIAMONDS;BLACK JOKER"),
  (0x1F0D1, "PLAYING CARD ", "ACE OF CLUBS;TWO OF CLUBS;THREE OF CLUBS;FOUR OF CLUBS;FIVE OF CLUBS;SIX OF CLUBS"),
  (0x1F0D7, "PLAYING CARD ", "SEVEN OF CLUBS;EIGHT OF CLUBS;NINE OF CLUBS;TEN OF CLUBS;JACK OF CLUBS"),
  (0x1F0DC, "PLAYING CARD ", "KNIGHT OF CLUBS;QUEEN OF CLUBS;KING OF CLUBS;WHITE JOKER;FOOL"),
  (0x1F0E1, "PLAYING CARD TRUMP-", "1;2;3;4;5;6;7;8;9;10;11;12;13;14;15;16;17;18;19;20;21"),
  (0x1F100, "DIGIT ", "ZERO FULL STOP;ZERO COMMA;ONE COMMA;TWO COMMA;THREE COMMA;FOUR COMMA;FIVE COMMA;SIX COMMA"),
  (0x1F108, "DIGIT ", "SEVEN COMMA;EIGHT COMMA;NINE COMMA"),
  (0x1F10B, "DINGBAT ", "CIRCLED SANS-SERIF DIGIT ZERO;NEGATIVE CIRCLED SANS-SERIF DIGIT ZERO"),
  (0x1F10D, "CIRCLED ", "ZERO WITH SLASH;ANTICLOCKWISE ARROW;DOLLAR SIGN WITH OVERLAID BACKSLASH"),
  (0x1F110, "PARENTHESIZED LATIN CAPITAL LETTER ", "A;B;C;D;E;F;G;H;I;J;K;L;M;N;O;P;Q;R;S;T;U;V;W;X;Y;Z"),
  (0x1F12A, "TORTOISE SHELL BRACKETED LATIN CAPITAL LETTER ", "S"),
  (0x1F12B, "CIRCLED ITALIC LATIN CAPITAL LETTER ", "C;R"), (0x1F12D, "", "CIRCLED CD;CIRCLED WZ;COPYLEFT SYMBOL"),
  (0x1F130, "SQUARED LATIN CAPITAL LETTER ", "A;B;C;D;E;F;G;H;I;J;K;L;M;N;O;P;Q;R;S;T;U;V;W;X;Y;Z"),
  (0x1F14A, "SQUARED ", "HV;MV;SD;SS;PPV;WC"),
  (0x1F150, "NEGATIVE CIRCLED LATIN CAPITAL LETTER ", "A;B;C;D;E;F;G;H;I;J;K;L;M;N;O;P;Q;R;S;T;U;V;W;X;Y;Z"),
  (0x1F16A, "RAISED ", "MC SIGN;MD SIGN;MR SIGN"), (0x1F16D, "CIRCLED ", "CC;C WITH OVERLAID BACKSLASH;HUMAN FIGURE"),
  (0x1F170, "NEGATIVE SQUARED LATIN CAPITAL LETTER ", "A;B;C;D;E;F;G;H;I;J;K;L;M;N;O;P;Q;R;S;T;U;V;W;X;Y;Z"),
  (0x1F18A, "CROSSED NEGATIVE SQUARED LATIN CAPITAL LETTER ", "P"), (0x1F18B, "NEGATIVE SQUARED ", "IC;PA;SA;AB;WC"),
  (0x1F190, "SQUARE ", "DJ"),
  (0x1F191, "SQUARED ", "CL;COOL;FREE;ID;NEW;NG;OK;SOS;UP WITH EXCLAMATION MARK;VS;THREE D;SECOND SCREEN;TWO K"),
  (0x1F19E, "SQUARED ", "FOUR K;EIGHT K;FIVE POINT ONE;SEVEN POINT ONE;TWENTY-TWO POINT TWO;SIXTY P"),
  (0x1F1A4, "SQUARED ", "ONE HUNDRED TWENTY P;LATIN SMALL LETTER D;HC;HDR;HI-RES;LOSSLESS;SHV;UHD;VOD"),
  (0x1F1AD, "MASK WORK ", "SYMBOL")]

/-- The names from U+1F1E6 on. -/
def names1F1E6 : List NameRow := [
  (0x1F1E6, "REGIONAL INDICATOR SYMBOL LETTER ", "A;B;C;D;E;F;G;H;I;J;K;L;M;N;O;P;Q;R;S;T;U;V;W;X;Y;Z"),
  (0x1F200, "", "SQUARE HIRAGANA HOKA;SQUARED KATAKANA KOKO;SQUARED KATAKANA SA"),
  (0x1F210, "SQUARED CJK UNIFIED IDEOGRAPH-", "624B;5B57;53CC"),
  (0x1F213, "SQUARED ", "KATAKANA DE;CJK UNIFIED IDEOGRAPH-4E8C"),
  (0x1F215, "SQUARED CJK UNIFIED IDEOGRAPH-", "591A;89E3;5929;4EA4;6620;7121;6599;524D;5F8C;518D;65B0;521D;7D42"),
  (0x1F222, "SQUARED CJK UNIFIED IDEOGRAPH-", "751F;8CA9;58F0;5439;6F14;6295;6355;4E00;4E09;904A;5DE6;4E2D;53F3"),
  (0x1F22F, "SQUARED CJK UNIFIED IDEOGRAPH-", "6307;8D70;6253;7981;7A7A;5408;6E80;6709;6708;7533;5272;55B6;914D"),
  (0x1F240, "TORTOISE SHELL BRACKETED CJK UNIFIED IDEOGRAPH-", "672C;4E09;4E8C;5B89;70B9;6253;76D7;52DD;6557"),
  (0x1F250, "CIRCLED IDEOGRAPH ", "ADVANTAGE;ACCEPT"), (0x1F260, "ROUNDED SYMBOL FOR ", "FU;LU;SHOU;XI;SHUANGXI;CAI"),
  (0x1F300, "", "CYCLONE;FOGGY;CLOSED UMBRELLA;NIGHT WITH STARS;SUNRISE OVER MOUNTAINS;SUNRISE;CITYSCAPE AT DUSK"),
  (0x1F307, "", "SUNSET OVER BUILDINGS;RAINBOW;BRIDGE AT NIGHT;WATER WAVE;VOLCANO;MILKY WAY"),
  (0x1F30D, "EARTH GLOBE ", "EUROPE-AFRICA;AMERICAS;ASIA-AUSTRALIA"),
  (0x1F310, "", "GLOBE WITH MERIDIANS;NEW MOON SYMBOL;WAXING CRESCENT MOON SYMBOL;FIRST QUARTER MOON SYMBOL"),
  (0x1F314, "", "WAXING GIBBOUS MOON SYMBOL;FULL MOON SYMBOL;WANING GIBBOUS MOON SYMBOL;LAST QUARTER MOON SYMBOL"),
  (0x1F318, "", "WANING CRESCENT MOON SYMBOL;CRESCENT MOON;NEW MOON WITH FACE;FIRST QUARTER MOON WITH FACE"),
  (0x1F31C, "", "LAST QUARTER MOON WITH FACE;FULL MOON WITH FACE;SUN WITH FACE;GLOWING STAR;SHOOTING STAR"),
  (0x1F321, "", "THERMOMETER;BLACK DROPLET;WHITE SUN"),
  (0x1F324, "WHITE SUN ", "WITH SMALL CLOUD;BEHIND CLOUD;BEHIND CLOUD WITH RAIN"),
  (0x1F327, "CLOUD WITH ", "RAIN;SNOW;LIGHTNING;TORNADO"),
  (0x1F32B, "", "FOG;WIND BLOWING FACE;HOT DOG;TACO;BURRITO;CHESTNUT;SEEDLING;EVERGREEN TREE;DECIDUOUS TREE"),
  (0x1F334, "", "PALM TREE;CACTUS;HOT PEPPER;TULIP;CHERRY BLOSSOM;ROSE;HIBISCUS;SUNFLOWER;BLOSSOM;EAR OF MAIZE"),
  (0x1F33E, "", "EAR OF RICE;HERB;FOUR LEAF CLOVER;MAPLE LEAF;FALLEN LEAF;LEAF FLUTTERING IN WIND;MUSHROOM;TOMATO"),
  (0x1F346, "", "AUBERGINE;GRAPES;MELON;WATERMELON;TANGERINE;LEMON;BANANA;PINEAPPLE;RED APPLE;GREEN APPLE;PEAR"),
  (0x1F351, "", "PEACH;CHERRIES;STRAWBERRY;HAMBURGER;SLICE OF PIZZA;MEAT ON BONE;POULTRY LEG;RICE CRACKER;RICE BALL"),
  (0x1F35A, "", "COOKED RICE;CURRY AND RICE;STEAMING BOWL;SPAGHETTI;BREAD;FRENCH FRIES;ROASTED SWEET POTATO;DANGO"),
  (0x1F362, "", "ODEN;SUSHI;FRIED SHRIMP;FISH CAKE WITH SWIRL DESIGN;SOFT ICE CREAM;SHAVED ICE;ICE CREAM;DOUGHNUT"),
  (0x1F36A, "", "COOKIE;CHOCOLATE BAR;CANDY;LOLLIPOP;CUSTARD;HONEY POT;SHORTCAKE;BENTO BOX;POT OF FOOD;COOKING"),
  (0x1F374, "", "FORK AND KNIFE;TEACUP WITHOUT HANDLE;SAKE BOTTLE AND CUP;WINE GLASS;COCKTAIL GLASS;TROPICAL DRINK"),
  (0x1F37A, "", "BEER MUG;CLINKING BEER MUGS;BABY BOTTLE;FORK AND KNIFE WITH PLATE;BOTTLE WITH POPPING CORK;POPCORN"),
  (0x1F380, "", "RIBBON;WRAPPED PRESENT;BIRTHDAY CAKE;JACK-O-LANTERN;CHRISTMAS TREE;FATHER CHRISTMAS;FIREWORKS"),
  (0x1F387, "", "FIREWORK SPARKLER;BALLOON;PARTY POPPER;CONFETTI BALL;TANABATA TREE;CROSSED FLAGS;PINE DECORATION"),
  (0x1F38E, "", "JAPANESE DOLLS;CARP STREAMER;WIND CHIME;MOON VIEWING CEREMONY;SCHOOL SATCHEL;GRADUATION CAP"),
  (0x1F394, "", "HEART WITH TIP ON THE LEFT;BOUQUET OF FLOWERS;MILITARY MEDAL;REMINDER RIBBON"),
  (0x1F398, "", "MUSICAL KEYBOARD WITH JACKS;STUDIO MICROPHONE;LEVEL SLIDER;CONTROL KNOBS"),
  (0x1F39C, "BEAMED ", "ASCENDING MUSICAL NOTES;DESCENDING MUSICAL NOTES"),
  (0x1F39E, "", "FILM FRAMES;ADMISSION TICKETS;CAROUSEL HORSE;FERRIS WHEEL;ROLLER COASTER;FISHING POLE AND FISH"),
  (0x1F3A4, "", "MICROPHONE;MOVIE CAMERA;CINEMA;HEADPHONE;ARTIST PALETTE;TOP HAT;CIRCUS TENT;TICKET;CLAPPER BOARD"),
  (0x1F3AD, "", "PERFORMING ARTS;VIDEO GAME;DIRECT HIT;SLOT MACHINE;BILLIARDS;GAME DIE;BOWLING;FLOWER PLAYING CARDS"),
  (0x1F3B5, "", "MUSICAL NOTE;MULTIPLE MUSICAL NOTES;SAXOPHONE;GUITAR;MUSICAL KEYBOARD;TRUMPET;VIOLIN;MUSICAL SCORE"),
  (0x1F3BD, "", "RUNNING SHIRT WITH SASH;TENNIS RACQUET AND BALL;SKI AND SKI BOOT;BASKETBALL AND HOOP"),
  (0x1F3C1, "", "CHEQUERED FLAG;SNOWBOARDER;RUNNER;SURFER;SPORTS MEDAL;TROPHY;HORSE RACING;AMERICAN FOOTBALL"),
  (0x1F3C9, "", "RUGBY FOOTBALL;SWIMMER;WEIGHT LIFTER;GOLFER;RACING MOTORCYCLE;RACING CAR;CRICKET BAT AND BALL"),
  (0x1F3D0, "", "VOLLEYBALL;FIELD HOCKEY STICK AND BALL;ICE HOCKEY STICK AND PUCK;TABLE TENNIS PADDLE AND BALL"),
  (0x1F3D4, "", "SNOW CAPPED MOUNTAIN;CAMPING;BEACH WITH UMBRELLA;BUILDING CONSTRUCTION;HOUSE BUILDINGS;CITYSCAPE"),
  (0x1F3DA, "", "DERELICT HOUSE BUILDING;CLASSICAL BUILDING;DESERT;DESERT ISLAND;NATIONAL PARK;STADIUM"),
  (0x1F3E0, "", "HOUSE BUILDING;HOUSE WITH GARDEN;OFFICE BUILDING;JAPANESE POST OFFICE;EUROPEAN POST OFFICE"),
  (0x1F3E5, "", "HOSPITAL;BANK;AUTOMATED TELLER MACHINE;HOTEL;LOVE HOTEL;CONVENIENCE STORE;SCHOOL;DEPARTMENT STORE"),
  (0x1F3ED, "", "FACTORY;IZAKAYA LANTERN;JAPANESE CASTLE;EUROPEAN CASTLE;WHITE PENNANT;BLACK PENNANT"),
  (0x1F3F3, "WAVING ", "WHITE FLAG;BLACK FLAG"),
  (0x1F3F5, "", "ROSETTE;BLACK ROSETTE;LABEL;BADMINTON RACQUET AND SHUTTLECOCK;BOW AND ARROW;AMPHORA"),
  (0x1F3FB, "EMOJI MODIFIER FITZPATRICK TYPE-", "1-2;3;4;5;6"),
  (0x1F400, "", "RAT;MOUSE;OX;WATER BUFFALO;COW;TIGER;LEOPARD;RABBIT;CAT;DRAGON;CROCODILE;WHALE;SNAIL;SNAKE;HORSE"),
  (0x1F40F, "", "RAM;GOAT;SHEEP;MONKEY;ROOSTER;CHICKEN;DOG;PIG;BOAR;ELEPHANT;OCTOPUS;SPIRAL SHELL;BUG;ANT;HONEYBEE"),
  (0x1F41E, "", "LADY BEETLE;FISH;TROPICAL FISH;BLOWFISH;TURTLE;HATCHING CHICK;BABY CHICK;FRONT-FACING BABY CHICK"),
  (0x1F426, "", "BIRD;PENGUIN;KOALA;POODLE;DROMEDARY CAMEL;BACTRIAN CAMEL;DOLPHIN;MOUSE FACE;COW FACE;TIGER FACE"),
  (0x1F430, "", "RABBIT FACE;CAT FACE;DRAGON FACE;SPOUTING WHALE;HORSE FACE;MONKEY FACE;DOG FACE;PIG FACE;FROG FACE"),
  (0x1F439, "", "HAMSTER FACE;WOLF FACE;BEAR FACE;PANDA FACE;PIG NOSE;PAW PRINTS;CHIPMUNK;EYES;EYE;EAR;NOSE;MOUTH"),
  (0x1F445, "", "TONGUE;WHITE UP POINTING BACKHAND INDEX"),
  (0x1F447, "WHITE ", "DOWN POINTING BACKHAND INDEX;LEFT POINTING BACKHAND INDEX;RIGHT POINTING BACKHAND INDEX"),
  (0x1F44A, "", "FISTED HAND SIGN;WAVING HAND SIGN;OK HAND SIGN;THUMBS UP SIGN;THUMBS DOWN SIGN;CLAPPING HANDS SIGN"),
  (0x1F450, "", "OPEN HANDS SIGN;CROWN;WOMANS HAT;EYEGLASSES;NECKTIE;T-SHIRT;JEANS;DRESS;KIMONO;BIKINI"),
  (0x1F45A, "", "WOMANS CLOTHES;PURSE;HANDBAG;POUCH;MANS SHOE;ATHLETIC SHOE;HIGH-HEELED SHOE;WOMANS SANDAL"),
  (0x1F462, "", "WOMANS BOOTS;FOOTPRINTS;BUST IN SILHOUETTE;BUSTS IN SILHOUETTE;BOY;GIRL;MAN;WOMAN;FAMILY"),
  (0x1F46B, "", "MAN AND WOMAN HOLDING HANDS;TWO MEN HOLDING HANDS;TWO WOMEN HOLDING HANDS;POLICE OFFICER"),
  (0x1F46F, "", "WOMAN WITH BUNNY EARS;BRIDE WITH VEIL;PERSON WITH BLOND HAIR;MAN WITH GUA PI MAO;MAN WITH TURBAN"),
  (0x1F474, "", "OLDER MAN;OLDER WOMAN;BABY;CONSTRUCTION WORKER;PRINCESS;JAPANESE OGRE;JAPANESE GOBLIN;GHOST"),
  (0x1F47C, "", "BABY ANGEL;EXTRATERRESTRIAL ALIEN;ALIEN MONSTER;IMP;SKULL;INFORMATION DESK PERSON;GUARDSMAN;DANCER"),
  (0x1F484, "", "LIPSTICK;NAIL POLISH;FACE MASSAGE;HAIRCUT;BARBER POLE;SYRINGE;PILL;KISS MARK;LOVE LETTER;RING"),
  (0x1F48E, "", "GEM STONE;KISS;BOUQUET;COUPLE WITH HEART;WEDDING;BEATING HEART;BROKEN HEART;TWO HEARTS"),
  (0x1F496, "", "SPARKLING HEART;GROWING HEART;HEART WITH ARROW;BLUE HEART;GREEN HEART;YELLOW HEART;PURPLE HEART"),
  (0x1F49D, "", "HEART WITH RIBBON;REVOLVING HEARTS;HEART DECORATION;DIAMOND SHAPE WITH A DOT INSIDE"),
  (0x1F4A1, "", "ELECTRIC LIGHT BULB;ANGER SYMBOL;BOMB;SLEEPING SYMBOL;COLLISION SYMBOL;SPLASHING SWEAT SYMBOL"),
  (0x1F4A7, "", "DROPLET;DASH SYMBOL;PILE OF POO;FLEXED BICEPS;DIZZY SYMBOL;SPEECH BALLOON;THOUGHT BALLOON"),
  (0x1F4AE, "", "WHITE FLOWER;HUNDRED POINTS SYMBOL;MONEY BAG;CURRENCY EXCHANGE;HEAVY DOLLAR SIGN;CREDIT CARD"),
  (0x1F4B4, "BANKNOTE WITH ", "YEN SIGN;DOLLAR SIGN;EURO SIGN;POUND SIGN"),
  (0x1F4B8, "", "MONEY WITH WINGS;CHART WITH UPWARDS TREND AND YEN SIGN;SEAT;PERSONAL COMPUTER;BRIEFCASE;MINIDISC"),
  (0x1F4BE, "", "FLOPPY DISK;OPTICAL DISC;DVD;FILE FOLDER;OPEN FILE FOLDER;PAGE WITH CURL;PAGE FACING UP;CALENDAR"),
  (0x1F4C6, "", "TEAR-OFF CALENDAR;CARD INDEX;CHART WITH UPWARDS TREND;CHART WITH DOWNWARDS TREND;BAR CHART"),
  (0x1F4CB, "", "CLIPBOARD;PUSHPIN;ROUND PUSHPIN;PAPERCLIP;STRAIGHT RULER;TRIANGULAR RULER;BOOKMARK TABS;LEDGER"),
  (0x1F4D3, "", "NOTEBOOK;NOTEBOOK WITH DECORATIVE COVER;CLOSED BOOK;OPEN BOOK;GREEN BOOK;BLUE BOOK;ORANGE BOOK"),
  (0x1F4DA, "", "BOOKS;NAME BADGE;SCROLL;MEMO;TELEPHONE RECEIVER;PAGER;FAX MACHINE;SATELLITE ANTENNA"),
  (0x1F4E2, "", "PUBLIC ADDRESS LOUDSPEAKER;CHEERING MEGAPHONE;OUTBOX TRAY;INBOX TRAY;PACKAGE;E-MAIL SYMBOL"),
  (0x1F4E8, "", "INCOMING ENVELOPE;ENVELOPE WITH DOWNWARDS ARROW ABOVE"),
  (0x1F4EA, "CLOSED MAILBOX WITH ", "LOWERED FLAG;RAISED FLAG"),
  (0x1F4EC, "", "OPEN MAILBOX WITH RAISED FLAG;OPEN MAILBOX WITH LOWERED FLAG;POSTBOX;POSTAL HORN;NEWSPAPER"),
  (0x1F4F1, "", "MOBILE PHONE;MOBILE PHONE WITH RIGHTWARDS ARROW AT LEFT;VIBRATION MODE;MOBILE PHONE OFF"),
  (0x1F4F5, "", "NO MOBILE PHONES;ANTENNA WITH BARS;CAMERA;CAMERA WITH FLASH;VIDEO CAMERA;TELEVISION;RADIO"),
  (0x1F4FC, "", "VIDEOCASSETTE;FILM PROJECTOR;PORTABLE STEREO;PRAYER BEADS;TWISTED RIGHTWARDS ARROWS"),
  (0x1F501, "CLOCKWISE RIGHTWARDS AND LEFTWARDS OPEN CIRCLE ", "ARROWS;ARROWS WITH CIRCLED ONE OVERLAY"),
  (0x1F503, "CLOCKWISE DOWNWARDS AND UPWARDS OPEN CIRCLE ", "ARROWS"),
  (0x1F504, "", "ANTICLOCKWISE DOWNWARDS AND UPWARDS OPEN CIRCLE ARROWS;LOW BRIGHTNESS SYMBOL"),
  (0x1F506, "", "HIGH BRIGHTNESS SYMBOL;SPEAKER WITH CANCELLATION STROKE;SPEAKER"),
  (0x1F509, "SPEAKER WITH ", "ONE SOUND WAVE;THREE SOUND WAVES"),
  (0x1F50B, "", "BATTERY;ELECTRIC PLUG;LEFT-POINTING MAGNIFYING GLASS;RIGHT-POINTING MAGNIFYING GLASS"),
  (0x1F50F, "", "LOCK WITH INK PEN;CLOSED LOCK WITH KEY;KEY;LOCK;OPEN LOCK;BELL;BELL WITH CANCELLATION STROKE"),
  (0x1F516, "", "BOOKMARK;LINK SYMBOL;RADIO BUTTON;BACK WITH LEFTWARDS ARROW ABOVE;END WITH LEFTWARDS ARROW ABOVE"),
  (0x1F51B, "", "ON WITH EXCLAMATION MARK WITH LEFT RIGHT ARROW ABOVE;SOON WITH RIGHTWARDS ARROW ABOVE"),
  (0x1F51D, "", "TOP WITH UPWARDS ARROW ABOVE;NO ONE UNDER EIGHTEEN SYMBOL;KEYCAP TEN"),
  (0x1F520, "INPUT SYMBOL FOR ", "LATIN CAPITAL LETTERS;LATIN SMALL LETTERS;NUMBERS;SYMBOLS;LATIN LETTERS")]

/-- The names from U+1F525 on. -/
def names1F525 : List NameRow := [
  (0x1F525, "", "FIRE;ELECTRIC TORCH;WRENCH;HAMMER;NUT AND BOLT;HOCHO;PISTOL;MICROSCOPE;TELESCOPE;CRYSTAL BALL"),
  (0x1F52F, "", "SIX POINTED STAR WITH MIDDLE DOT;JAPANESE SYMBOL FOR BEGINNER;TRIDENT EMBLEM;BLACK SQUARE BUTTON"),
  (0x1F533, "", "WHITE SQUARE BUTTON;LARGE RED CIRCLE;LARGE BLUE CIRCLE;LARGE ORANGE DIAMOND;LARGE BLUE DIAMOND"),
  (0x1F538, "", "SMALL ORANGE DIAMOND;SMALL BLUE DIAMOND;UP-POINTING RED TRIANGLE;DOWN-POINTING RED TRIANGLE"),
  (0x1F53C, "", "UP-POINTING SMALL RED TRIANGLE;DOWN-POINTING SMALL RED TRIANGLE;LOWER RIGHT SHADOWED WHITE CIRCLE"),
  (0x1F53F, "", "UPPER RIGHT SHADOWED WHITE CIRCLE;CIRCLED CROSS POMMEE;CROSS POMMEE WITH HALF-CIRCLE BELOW"),
  (0x1F542, "", "CROSS POMMEE;NOTCHED LEFT SEMICIRCLE WITH THREE DOTS;NOTCHED RIGHT SEMICIRCLE WITH THREE DOTS"),
  (0x1F545, "", "SYMBOL FOR MARKS CHAPTER;WHITE LATIN CROSS;HEAVY LATIN CROSS;CELTIC CROSS;OM SYMBOL;DOVE OF PEACE"),
  (0x1F54B, "", "KAABA;MOSQUE;SYNAGOGUE;MENORAH WITH NINE BRANCHES;BOWL OF HYGIEIA"),
  (0x1F550, "CLOCK FACE ", "ONE OCLOCK;TWO OCLOCK;THREE OCLOCK;FOUR OCLOCK;FIVE OCLOCK;SIX OCLOCK;SEVEN OCLOCK"),
  (0x1F557, "CLOCK FACE ", "EIGHT OCLOCK;NINE OCLOCK;TEN OCLOCK;ELEVEN OCLOCK;TWELVE OCLOCK;ONE-THIRTY;TWO-THIRTY"),
  (0x1F55E, "CLOCK FACE ", "THREE-THIRTY;FOUR-THIRTY;FIVE-THIRTY;SIX-THIRTY;SEVEN-THIRTY;EIGHT-THIRTY;NINE-THIRTY"),
  (0x1F565, "CLOCK FACE ", "TEN-THIRTY;ELEVEN-THIRTY;TWELVE-THIRTY"),
  (0x1F568, "", "RIGHT SPEAKER;RIGHT SPEAKER WITH ONE SOUND WAVE;RIGHT SPEAKER WITH THREE SOUND WAVES;BULLHORN"),
  (0x1F56C, "", "BULLHORN WITH SOUND WAVES;RINGING BELL;BOOK;CANDLE;MANTELPIECE CLOCK;BLACK SKULL AND CROSSBONES"),
  (0x1F572, "", "NO PIRACY;HOLE;MAN IN BUSINESS SUIT LEVITATING;SLEUTH OR SPY;DARK SUNGLASSES;SPIDER;SPIDER WEB"),
  (0x1F579, "", "JOYSTICK;MAN DANCING;LEFT HAND TELEPHONE RECEIVER;TELEPHONE RECEIVER WITH PAGE"),
  (0x1F57D, "", "RIGHT HAND TELEPHONE RECEIVER;WHITE TOUCHTONE TELEPHONE;BLACK TOUCHTONE TELEPHONE"),
  (0x1F580, "", "TELEPHONE ON TOP OF MODEM;CLAMSHELL MOBILE PHONE;BACK OF ENVELOPE;STAMPED ENVELOPE"),
  (0x1F584, "", "ENVELOPE WITH LIGHTNING;FLYING ENVELOPE;PEN OVER STAMPED ENVELOPE;LINKED PAPERCLIPS;BLACK PUSHPIN"),
  (0x1F589, "LOWER LEFT ", "PENCIL;BALLPOINT PEN;FOUNTAIN PEN;PAINTBRUSH;CRAYON"),
  (0x1F58E, "", "LEFT WRITING HAND;TURNED OK HAND SIGN;RAISED HAND WITH FINGERS SPLAYED"),
  (0x1F591, "REVERSED ", "RAISED HAND WITH FINGERS SPLAYED;THUMBS UP SIGN;THUMBS DOWN SIGN;VICTORY HAND"),
  (0x1F595, "", "REVERSED HAND WITH MIDDLE FINGER EXTENDED;RAISED HAND WITH PART BETWEEN MIDDLE AND RING FINGERS"),
  (0x1F597, "", "WHITE DOWN POINTING LEFT HAND INDEX;SIDEWAYS WHITE LEFT POINTING INDEX"),
  (0x1F599, "SIDEWAYS ", "WHITE RIGHT POINTING INDEX;BLACK LEFT POINTING INDEX;BLACK RIGHT POINTING INDEX"),
  (0x1F59C, "BLACK ", "LEFT POINTING BACKHAND INDEX;RIGHT POINTING BACKHAND INDEX"),
  (0x1F59E, "SIDEWAYS WHITE ", "UP POINTING INDEX;DOWN POINTING INDEX"),
  (0x1F5A0, "SIDEWAYS BLACK ", "UP POINTING INDEX;DOWN POINTING INDEX"),
  (0x1F5A2, "BLACK ", "UP POINTING BACKHAND INDEX;DOWN POINTING BACKHAND INDEX;HEART"),
  (0x1F5A5, "", "DESKTOP COMPUTER;KEYBOARD AND MOUSE;THREE NETWORKED COMPUTERS;PRINTER;POCKET CALCULATOR"),
  (0x1F5AA, "", "BLACK HARD SHELL FLOPPY DISK;WHITE HARD SHELL FLOPPY DISK;SOFT SHELL FLOPPY DISK;TAPE CARTRIDGE"),
  (0x1F5AE, "", "WIRED KEYBOARD;ONE BUTTON MOUSE;TWO BUTTON MOUSE;THREE BUTTON MOUSE;TRACKBALL"),
  (0x1F5B3, "", "OLD PERSONAL COMPUTER;HARD DISK;SCREEN;PRINTER ICON;FAX ICON;OPTICAL DISC ICON"),
  (0x1F5B9, "DOCUMENT WITH ", "TEXT;TEXT AND PICTURE;PICTURE"), (0x1F5BC, "FRAME WITH ", "PICTURE;TILES;AN X"),
  (0x1F5BF, "", "BLACK FOLDER;FOLDER;OPEN FOLDER;CARD INDEX DIVIDERS;CARD FILE BOX;FILE CABINET;EMPTY NOTE"),
  (0x1F5C6, "", "EMPTY NOTE PAGE;EMPTY NOTE PAD;NOTE;NOTE PAGE;NOTE PAD;EMPTY DOCUMENT;EMPTY PAGE;EMPTY PAGES"),
  (0x1F5CE, "", "DOCUMENT;PAGE;PAGES;WASTEBASKET;SPIRAL NOTE PAD;SPIRAL CALENDAR PAD;DESKTOP WINDOW;MINIMIZE"),
  (0x1F5D6, "", "MAXIMIZE;OVERLAP;CLOCKWISE RIGHT AND LEFT SEMICIRCLE ARROWS;CANCELLATION X"),
  (0x1F5DA, "", "INCREASE FONT SIZE SYMBOL;DECREASE FONT SIZE SYMBOL;COMPRESSION;OLD KEY;ROLLED-UP NEWSPAPER"),
  (0x1F5DF, "", "PAGE WITH CIRCLED TEXT;STOCK CHART;DAGGER KNIFE;LIPS;SPEAKING HEAD IN SILHOUETTE"),
  (0x1F5E4, "THREE RAYS ", "ABOVE;BELOW;LEFT;RIGHT"),
  (0x1F5E8, "", "LEFT SPEECH BUBBLE;RIGHT SPEECH BUBBLE;TWO SPEECH BUBBLES;THREE SPEECH BUBBLES;LEFT THOUGHT BUBBLE"),
  (0x1F5ED, "", "RIGHT THOUGHT BUBBLE;LEFT ANGER BUBBLE;RIGHT ANGER BUBBLE;MOOD BUBBLE"),
  (0x1F5F1, "LIGHTNING ", "MOOD BUBBLE;MOOD"),
  (0x1F5F3, "BALLOT ", "BOX WITH BALLOT;SCRIPT X;BOX WITH SCRIPT X;BOLD SCRIPT X;BOX WITH BOLD SCRIPT X"),
  (0x1F5F8, "", "LIGHT CHECK MARK;BALLOT BOX WITH BOLD CHECK;WORLD MAP;MOUNT FUJI;TOKYO TOWER;STATUE OF LIBERTY"),
  (0x1F5FE, "", "SILHOUETTE OF JAPAN;MOYAI;GRINNING FACE;GRINNING FACE WITH SMILING EYES;FACE WITH TEARS OF JOY"),
  (0x1F603, "SMILING FACE WITH OPEN ", "MOUTH;MOUTH AND SMILING EYES;MOUTH AND COLD SWEAT"),
  (0x1F606, "SMILING FACE WITH ", "OPEN MOUTH AND TIGHTLY-CLOSED EYES;HALO;HORNS"),
  (0x1F609, "", "WINKING FACE;SMILING FACE WITH SMILING EYES;FACE SAVOURING DELICIOUS FOOD;RELIEVED FACE"),
  (0x1F60D, "SMILING FACE WITH ", "HEART-SHAPED EYES;SUNGLASSES"),
  (0x1F60F, "", "SMIRKING FACE;NEUTRAL FACE;EXPRESSIONLESS FACE;UNAMUSED FACE;FACE WITH COLD SWEAT;PENSIVE FACE"),
  (0x1F615, "", "CONFUSED FACE;CONFOUNDED FACE;KISSING FACE;FACE THROWING A KISS"),
  (0x1F619, "KISSING FACE WITH ", "SMILING EYES;CLOSED EYES"),
  (0x1F61B, "FACE WITH STUCK-OUT ", "TONGUE;TONGUE AND WINKING EYE;TONGUE AND TIGHTLY-CLOSED EYES"),
  (0x1F61E, "", "DISAPPOINTED FACE;WORRIED FACE;ANGRY FACE;POUTING FACE;CRYING FACE;PERSEVERING FACE"),
  (0x1F624, "", "FACE WITH LOOK OF TRIUMPH;DISAPPOINTED BUT RELIEVED FACE;FROWNING FACE WITH OPEN MOUTH"),
  (0x1F627, "", "ANGUISHED FACE;FEARFUL FACE;WEARY FACE;SLEEPY FACE;TIRED FACE;GRIMACING FACE;LOUDLY CRYING FACE"),
  (0x1F62E, "", "FACE WITH OPEN MOUTH;HUSHED FACE;FACE WITH OPEN MOUTH AND COLD SWEAT;FACE SCREAMING IN FEAR"),
  (0x1F632, "", "ASTONISHED FACE;FLUSHED FACE;SLEEPING FACE;DIZZY FACE;FACE WITHOUT MOUTH;FACE WITH MEDICAL MASK"),
  (0x1F638, "", "GRINNING CAT FACE WITH SMILING EYES;CAT FACE WITH TEARS OF JOY"),
  (0x1F63A, "SMILING CAT FACE WITH ", "OPEN MOUTH;HEART-SHAPED EYES"),
  (0x1F63C, "", "CAT FACE WITH WRY SMILE;KISSING CAT FACE WITH CLOSED EYES;POUTING CAT FACE;CRYING CAT FACE"),
  (0x1F640, "", "WEARY CAT FACE;SLIGHTLY FROWNING FACE;SLIGHTLY SMILING FACE;UPSIDE-DOWN FACE"),
  (0x1F644, "FACE WITH ", "ROLLING EYES;NO GOOD GESTURE;OK GESTURE"),
  (0x1F647, "", "PERSON BOWING DEEPLY;SEE-NO-EVIL MONKEY;HEAR-NO-EVIL MONKEY;SPEAK-NO-EVIL MONKEY"),
  (0x1F64B, "HAPPY PERSON RAISING ONE ", "HAND"),
  (0x1F64C, "PERSON ", "RAISING BOTH HANDS IN CELEBRATION;FROWNING;WITH POUTING FACE;WITH FOLDED HANDS"),
  (0x1F650, "", "NORTH WEST POINTING LEAF;SOUTH WEST POINTING LEAF;NORTH EAST POINTING LEAF"),
  (0x1F653, "", "SOUTH EAST POINTING LEAF;TURNED NORTH WEST POINTING LEAF;TURNED SOUTH WEST POINTING LEAF"),
  (0x1F656, "", "TURNED NORTH EAST POINTING LEAF;TURNED SOUTH EAST POINTING LEAF;NORTH WEST POINTING VINE LEAF"),
  (0x1F659, "", "SOUTH WEST POINTING VINE LEAF;NORTH EAST POINTING VINE LEAF;SOUTH EAST POINTING VINE LEAF"),
  (0x1F65C, "HEAVY ", "NORTH WEST POINTING VINE LEAF;SOUTH WEST POINTING VINE LEAF;NORTH EAST POINTING VINE LEAF"),
  (0x1F65F, "", "HEAVY SOUTH EAST POINTING VINE LEAF;NORTH WEST POINTING BUD;SOUTH WEST POINTING BUD"),
  (0x1F662, "", "NORTH EAST POINTING BUD;SOUTH EAST POINTING BUD;HEAVY NORTH WEST POINTING BUD"),
  (0x1F665, "HEAVY ", "SOUTH WEST POINTING BUD;NORTH EAST POINTING BUD;SOUTH EAST POINTING BUD"),
  (0x1F668, "HOLLOW QUILT SQUARE ", "ORNAMENT;ORNAMENT IN BLACK SQUARE"),
  (0x1F66A, "SOLID QUILT SQUARE ", "ORNAMENT;ORNAMENT IN BLACK SQUARE"),
  (0x1F66C, "", "LEFTWARDS ROCKET;UPWARDS ROCKET;RIGHTWARDS ROCKET;DOWNWARDS ROCKET;SCRIPT LIGATURE ET ORNAMENT"),
  (0x1F671, "", "HEAVY SCRIPT LIGATURE ET ORNAMENT;LIGATURE OPEN ET ORNAMENT;HEAVY LIGATURE OPEN ET ORNAMENT"),
  (0x1F674, "", "HEAVY AMPERSAND ORNAMENT;SWASH AMPERSAND ORNAMENT"),
  (0x1F676, "SANS-SERIF HEAVY DOUBLE ", "TURNED COMMA QUOTATION MARK ORNAMENT;COMMA QUOTATION MARK ORNAMENT"),
  (0x1F678, "", "SANS-SERIF HEAVY LOW DOUBLE COMMA QUOTATION MARK ORNAMENT;HEAVY INTERROBANG ORNAMENT"),
  (0x1F67A, "", "SANS-SERIF INTERROBANG ORNAMENT;HEAVY SANS-SERIF INTERROBANG ORNAMENT;VERY HEAVY SOLIDUS"),
  (0x1F67D, "", "VERY HEAVY REVERSE SOLIDUS;CHECKER BOARD;REVERSE CHECKER BOARD;ROCKET;HELICOPTER;STEAM LOCOMOTIVE"),
  (0x1F683, "", "RAILWAY CAR;HIGH-SPEED TRAIN;HIGH-SPEED TRAIN WITH BULLET NOSE;TRAIN;METRO;LIGHT RAIL;STATION;TRAM"),
  (0x1F68B, "", "TRAM CAR;BUS;ONCOMING BUS;TROLLEYBUS;BUS STOP;MINIBUS;AMBULANCE;FIRE ENGINE;POLICE CAR"),
  (0x1F694, "", "ONCOMING POLICE CAR;TAXI;ONCOMING TAXI;AUTOMOBILE;ONCOMING AUTOMOBILE;RECREATIONAL VEHICLE"),
  (0x1F69A, "", "DELIVERY TRUCK;ARTICULATED LORRY;TRACTOR;MONORAIL;MOUNTAIN RAILWAY;SUSPENSION RAILWAY"),
  (0x1F6A0, "", "MOUNTAIN CABLEWAY;AERIAL TRAMWAY;SHIP;ROWBOAT;SPEEDBOAT;HORIZONTAL TRAFFIC LIGHT"),
  (0x1F6A6, "", "VERTICAL TRAFFIC LIGHT;CONSTRUCTION SIGN;POLICE CARS REVOLVING LIGHT;TRIANGULAR FLAG ON POST;DOOR"),
  (0x1F6AB, "", "NO ENTRY SIGN;SMOKING SYMBOL;NO SMOKING SYMBOL;PUT LITTER IN ITS PLACE SYMBOL;DO NOT LITTER SYMBOL"),
  (0x1F6B0, "", "POTABLE WATER SYMBOL;NON-POTABLE WATER SYMBOL;BICYCLE;NO BICYCLES;BICYCLIST;MOUNTAIN BICYCLIST"),
  (0x1F6B6, "", "PEDESTRIAN;NO PEDESTRIANS;CHILDREN CROSSING;MENS SYMBOL;WOMENS SYMBOL;RESTROOM;BABY SYMBOL;TOILET"),
  (0x1F6BE, "", "WATER CLOSET;SHOWER;BATH;BATHTUB;PASSPORT CONTROL;CUSTOMS;BAGGAGE CLAIM;LEFT LUGGAGE"),
  (0x1F6C6, "", "TRIANGLE WITH ROUNDED CORNERS;PROHIBITED SIGN;CIRCLED INFORMATION SOURCE;BOYS SYMBOL;GIRLS SYMBOL"),
  (0x1F6CB, "", "COUCH AND LAMP;SLEEPING ACCOMMODATION;SHOPPING BAGS;BELLHOP BELL;BED;PLACE OF WORSHIP"),
  (0x1F6D1, "", "OCTAGONAL SIGN;SHOPPING TROLLEY;STUPA;PAGODA;HINDU TEMPLE;HUT;ELEVATOR")]

/-- The names from U+1F6DD on. -/
def names1F6DD : List NameRow := [
  (0x1F6DD, "", "PLAYGROUND SLIDE;WHEEL;RING BUOY;HAMMER AND WRENCH;SHIELD;OIL DRUM;MOTORWAY;RAILWAY TRACK"),
  (0x1F6E5, "MOTOR ", "BOAT"), (0x1F6E6, "UP-POINTING ", "MILITARY AIRPLANE;AIRPLANE;SMALL AIRPLANE"),
  (0x1F6E9, "", "SMALL AIRPLANE;NORTHEAST-POINTING AIRPLANE;AIRPLANE DEPARTURE;AIRPLANE ARRIVING"),
  (0x1F6F0, "", "SATELLITE;ONCOMING FIRE ENGINE;DIESEL LOCOMOTIVE;PASSENGER SHIP;SCOOTER;MOTOR SCOOTER;CANOE;SLED"),
  (0x1F6F8, "", "FLYING SAUCER;SKATEBOARD;AUTO RICKSHAW;PICKUP TRUCK;ROLLER SKATE"),
  (0x1F700, "ALCHEMICAL SYMBOL FOR ", "QUINTESSENCE;AIR;FIRE;EARTH;WATER;AQUAFORTIS;AQUA REGIA;AQUA REGIA-2"),
  (0x1F708, "ALCHEMICAL SYMBOL FOR ", "AQUA VITAE;AQUA VITAE-2;VINEGAR;VINEGAR-2;VINEGAR-3;SULFUR"),
  (0x1F70E, "ALCHEMICAL SYMBOL FOR ", "PHILOSOPHERS SULFUR;BLACK SULFUR;MERCURY SUBLIMATE;MERCURY SUBLIMATE-2"),
  (0x1F712, "ALCHEMICAL SYMBOL FOR ", "MERCURY SUBLIMATE-3;CINNABAR;SALT;NITRE;VITRIOL;VITRIOL-2;ROCK SALT"),
  (0x1F719, "ALCHEMICAL SYMBOL FOR ", "ROCK SALT-2;GOLD;SILVER;IRON ORE;IRON ORE-2;CROCUS OF IRON;REGULUS OF IRON"),
  (0x1F720, "ALCHEMICAL SYMBOL FOR ", "COPPER ORE;IRON-COPPER ORE;SUBLIMATE OF COPPER;CROCUS OF COPPER"),
  (0x1F724, "ALCHEMICAL SYMBOL FOR ", "CROCUS OF COPPER-2;COPPER ANTIMONIATE;SALT OF COPPER ANTIMONIATE"),
  (0x1F727, "ALCHEMICAL SYMBOL FOR ", "SUBLIMATE OF SALT OF COPPER;VERDIGRIS;TIN ORE;LEAD ORE;ANTIMONY ORE"),
  (0x1F72C, "ALCHEMICAL SYMBOL FOR ", "SUBLIMATE OF ANTIMONY;SALT OF ANTIMONY;SUBLIMATE OF SALT OF ANTIMONY"),
  (0x1F72F, "ALCHEMICAL SYMBOL FOR ", "VINEGAR OF ANTIMONY;REGULUS OF ANTIMONY;REGULUS OF ANTIMONY-2;REGULUS"),
  (0x1F733, "ALCHEMICAL SYMBOL FOR REGULUS-", "2;3;4"),
  (0x1F736, "ALCHEMICAL SYMBOL FOR ", "ALKALI;ALKALI-2;MARCASITE;SAL-AMMONIAC;ARSENIC;REALGAR;REALGAR-2;AURIPIGMENT"),
  (0x1F73E, "ALCHEMICAL SYMBOL FOR ", "BISMUTH ORE;TARTAR;TARTAR-2;QUICK LIME;BORAX;BORAX-2;BORAX-3;ALUM;OIL;SPIRIT"),
  (0x1F748, "ALCHEMICAL SYMBOL FOR ", "TINCTURE;GUM;WAX;POWDER;CALX;TUTTY;CAPUT MORTUUM;SCEPTER OF JOVE;CADUCEUS"),
  (0x1F751, "ALCHEMICAL SYMBOL FOR ", "TRIDENT;STARRED TRIDENT;LODESTONE;SOAP;URINE;HORSE DUNG;ASHES;POT ASHES"),
  (0x1F759, "ALCHEMICAL SYMBOL FOR ", "BRICK;POWDERED BRICK;AMALGAM;STRATUM SUPER STRATUM;STRATUM SUPER STRATUM-2"),
  (0x1F75E, "ALCHEMICAL SYMBOL FOR ", "SUBLIMATION;PRECIPITATE;DISTILL;DISSOLVE;DISSOLVE-2;PURIFY;PUTREFACTION"),
  (0x1F765, "ALCHEMICAL SYMBOL FOR ", "CRUCIBLE;CRUCIBLE-2;CRUCIBLE-3;CRUCIBLE-4;CRUCIBLE-5;ALEMBIC;BATH OF MARY"),
  (0x1F76C, "ALCHEMICAL SYMBOL FOR ", "BATH OF VAPOURS;RETORT;HOUR;NIGHT;DAY-NIGHT;MONTH;HALF DRAM;HALF OUNCE"),
  (0x1F780, "BLACK ", "LEFT-POINTING ISOSCELES RIGHT TRIANGLE;UP-POINTING ISOSCELES RIGHT TRIANGLE"),
  (0x1F782, "BLACK ", "RIGHT-POINTING ISOSCELES RIGHT TRIANGLE;DOWN-POINTING ISOSCELES RIGHT TRIANGLE"),
  (0x1F784, "", "BLACK SLIGHTLY SMALL CIRCLE;MEDIUM BOLD WHITE CIRCLE;BOLD WHITE CIRCLE;HEAVY WHITE CIRCLE"),
  (0x1F788, "", "VERY HEAVY WHITE CIRCLE;EXTREMELY HEAVY WHITE CIRCLE;WHITE CIRCLE CONTAINING BLACK SMALL CIRCLE"),
  (0x1F78B, "", "ROUND TARGET;BLACK TINY SQUARE;BLACK SLIGHTLY SMALL SQUARE;LIGHT WHITE SQUARE;MEDIUM WHITE SQUARE"),
  (0x1F790, "", "BOLD WHITE SQUARE;HEAVY WHITE SQUARE;VERY HEAVY WHITE SQUARE;EXTREMELY HEAVY WHITE SQUARE"),
  (0x1F794, "WHITE SQUARE CONTAINING BLACK ", "VERY SMALL SQUARE;MEDIUM SQUARE"),
  (0x1F796, "", "SQUARE TARGET;BLACK TINY DIAMOND;BLACK VERY SMALL DIAMOND;BLACK MEDIUM SMALL DIAMOND"),
  (0x1F79A, "WHITE DIAMOND CONTAINING BLACK ", "VERY SMALL DIAMOND;MEDIUM DIAMOND"),
  (0x1F79C, "", "DIAMOND TARGET;BLACK TINY LOZENGE;BLACK VERY SMALL LOZENGE;BLACK MEDIUM SMALL LOZENGE"),
  (0x1F7A0, "", "WHITE LOZENGE CONTAINING BLACK SMALL LOZENGE;THIN GREEK CROSS;LIGHT GREEK CROSS;MEDIUM GREEK CROSS"),
  (0x1F7A4, "", "BOLD GREEK CROSS;VERY BOLD GREEK CROSS;VERY HEAVY GREEK CROSS;EXTREMELY HEAVY GREEK CROSS"),
  (0x1F7A8, "", "THIN SALTIRE;LIGHT SALTIRE;MEDIUM SALTIRE;BOLD SALTIRE;HEAVY SALTIRE;VERY HEAVY SALTIRE"),
  (0x1F7AE, "", "EXTREMELY HEAVY SALTIRE;LIGHT FIVE SPOKED ASTERISK;MEDIUM FIVE SPOKED ASTERISK"),
  (0x1F7B1, "", "BOLD FIVE SPOKED ASTERISK;HEAVY FIVE SPOKED ASTERISK;VERY HEAVY FIVE SPOKED ASTERISK"),
  (0x1F7B4, "", "EXTREMELY HEAVY FIVE SPOKED ASTERISK;LIGHT SIX SPOKED ASTERISK;MEDIUM SIX SPOKED ASTERISK"),
  (0x1F7B7, "", "BOLD SIX SPOKED ASTERISK;HEAVY SIX SPOKED ASTERISK;VERY HEAVY SIX SPOKED ASTERISK"),
  (0x1F7BA, "", "EXTREMELY HEAVY SIX SPOKED ASTERISK;LIGHT EIGHT SPOKED ASTERISK;MEDIUM EIGHT SPOKED ASTERISK"),
  (0x1F7BD, "", "BOLD EIGHT SPOKED ASTERISK;HEAVY EIGHT SPOKED ASTERISK;VERY HEAVY EIGHT SPOKED ASTERISK"),
  (0x1F7C0, "", "LIGHT THREE POINTED BLACK STAR;MEDIUM THREE POINTED BLACK STAR;THREE POINTED BLACK STAR"),
  (0x1F7C3, "", "MEDIUM THREE POINTED PINWHEEL STAR;LIGHT FOUR POINTED BLACK STAR;MEDIUM FOUR POINTED BLACK STAR"),
  (0x1F7C6, "", "FOUR POINTED BLACK STAR;MEDIUM FOUR POINTED PINWHEEL STAR;REVERSE LIGHT FOUR POINTED PINWHEEL STAR"),
  (0x1F7C9, "", "LIGHT FIVE POINTED BLACK STAR;HEAVY FIVE POINTED BLACK STAR;MEDIUM SIX POINTED BLACK STAR"),
  (0x1F7CC, "", "HEAVY SIX POINTED BLACK STAR;SIX POINTED PINWHEEL STAR;MEDIUM EIGHT POINTED BLACK STAR"),
  (0x1F7CF, "", "HEAVY EIGHT POINTED BLACK STAR;VERY HEAVY EIGHT POINTED BLACK STAR"),
  (0x1F7D1, "", "HEAVY EIGHT POINTED PINWHEEL STAR;LIGHT TWELVE POINTED BLACK STAR"),
  (0x1F7D3, "HEAVY TWELVE POINTED ", "BLACK STAR;PINWHEEL STAR"),
  (0x1F7D5, "", "CIRCLED TRIANGLE;NEGATIVE CIRCLED TRIANGLE;CIRCLED SQUARE;NEGATIVE CIRCLED SQUARE"),
  (0x1F7E0, "LARGE ", "ORANGE CIRCLE;YELLOW CIRCLE;GREEN CIRCLE;PURPLE CIRCLE;BROWN CIRCLE;RED SQUARE;BLUE SQUARE"),
  (0x1F7E7, "LARGE ", "ORANGE SQUARE;YELLOW SQUARE;GREEN SQUARE;PURPLE SQUARE;BROWN SQUARE"),
  (0x1F7F0, "HEAVY EQUALS ", "SIGN"),
  (0x1F800, "", "LEFTWARDS ARROW WITH SMALL TRIANGLE ARROWHEAD;UPWARDS ARROW WITH SMALL TRIANGLE ARROWHEAD"),
  (0x1F802, "", "RIGHTWARDS ARROW WITH SMALL TRIANGLE ARROWHEAD;DOWNWARDS ARROW WITH SMALL TRIANGLE ARROWHEAD"),
  (0x1F804, "", "LEFTWARDS ARROW WITH MEDIUM TRIANGLE ARROWHEAD;UPWARDS ARROW WITH MEDIUM TRIANGLE ARROWHEAD"),
  (0x1F806, "", "RIGHTWARDS ARROW WITH MEDIUM TRIANGLE ARROWHEAD;DOWNWARDS ARROW WITH MEDIUM TRIANGLE ARROWHEAD"),
  (0x1F808, "", "LEFTWARDS ARROW WITH LARGE TRIANGLE ARROWHEAD;UPWARDS ARROW WITH LARGE TRIANGLE ARROWHEAD"),
  (0x1F80A, "", "RIGHTWARDS ARROW WITH LARGE TRIANGLE ARROWHEAD;DOWNWARDS ARROW WITH LARGE TRIANGLE ARROWHEAD"),
  (0x1F810, "", "LEFTWARDS ARROW WITH SMALL EQUILATERAL ARROWHEAD;UPWARDS ARROW WITH SMALL EQUILATERAL ARROWHEAD"),
  (0x1F812, "", "RIGHTWARDS ARROW WITH SMALL EQUILATERAL ARROWHEAD;DOWNWARDS ARROW WITH SMALL EQUILATERAL ARROWHEAD"),
  (0x1F814, "", "LEFTWARDS ARROW WITH EQUILATERAL ARROWHEAD;UPWARDS ARROW WITH EQUILATERAL ARROWHEAD"),
  (0x1F816, "", "RIGHTWARDS ARROW WITH EQUILATERAL ARROWHEAD;DOWNWARDS ARROW WITH EQUILATERAL ARROWHEAD"),
  (0x1F818, "HEAVY ", "LEFTWARDS ARROW WITH EQUILATERAL ARROWHEAD;UPWARDS ARROW WITH EQUILATERAL ARROWHEAD"),
  (0x1F81A, "HEAVY ", "RIGHTWARDS ARROW WITH EQUILATERAL ARROWHEAD;DOWNWARDS ARROW WITH EQUILATERAL ARROWHEAD"),
  (0x1F81C, "HEAVY LEFTWARDS ARROW WITH LARGE EQUILATERAL ", "ARROWHEAD"),
  (0x1F81D, "HEAVY UPWARDS ARROW WITH LARGE EQUILATERAL ", "ARROWHEAD"),
  (0x1F81E, "HEAVY RIGHTWARDS ARROW WITH LARGE EQUILATERAL ", "ARROWHEAD"),
  (0x1F81F, "HEAVY DOWNWARDS ARROW WITH LARGE EQUILATERAL ", "ARROWHEAD"),
  (0x1F820, "", "LEFTWARDS TRIANGLE-HEADED ARROW WITH NARROW SHAFT;UPWARDS TRIANGLE-HEADED ARROW WITH NARROW SHAFT"),
  (0x1F822, "RIGHTWARDS TRIANGLE-HEADED ARROW WITH NARROW ", "SHAFT"),
  (0x1F823, "DOWNWARDS TRIANGLE-HEADED ARROW WITH NARROW ", "SHAFT"),
  (0x1F824, "", "LEFTWARDS TRIANGLE-HEADED ARROW WITH MEDIUM SHAFT;UPWARDS TRIANGLE-HEADED ARROW WITH MEDIUM SHAFT"),
  (0x1F826, "RIGHTWARDS TRIANGLE-HEADED ARROW WITH MEDIUM ", "SHAFT"),
  (0x1F827, "", "DOWNWARDS TRIANGLE-HEADED ARROW WITH MEDIUM SHAFT;LEFTWARDS TRIANGLE-HEADED ARROW WITH BOLD SHAFT"),
  (0x1F829, "", "UPWARDS TRIANGLE-HEADED ARROW WITH BOLD SHAFT;RIGHTWARDS TRIANGLE-HEADED ARROW WITH BOLD SHAFT"),
  (0x1F82B, "", "DOWNWARDS TRIANGLE-HEADED ARROW WITH BOLD SHAFT;LEFTWARDS TRIANGLE-HEADED ARROW WITH HEAVY SHAFT"),
  (0x1F82D, "", "UPWARDS TRIANGLE-HEADED ARROW WITH HEAVY SHAFT;RIGHTWARDS TRIANGLE-HEADED ARROW WITH HEAVY SHAFT"),
  (0x1F82F, "DOWNWARDS TRIANGLE-HEADED ARROW WITH HEAVY ", "SHAFT"),
  (0x1F830, "LEFTWARDS TRIANGLE-HEADED ARROW WITH VERY HEAVY ", "SHAFT"),
  (0x1F831, "UPWARDS TRIANGLE-HEADED ARROW WITH VERY HEAVY ", "SHAFT"),
  (0x1F832, "RIGHTWARDS TRIANGLE-HEADED ARROW WITH VERY HEAVY ", "SHAFT"),
  (0x1F833, "", "DOWNWARDS TRIANGLE-HEADED ARROW WITH VERY HEAVY SHAFT;LEFTWARDS FINGER-POST ARROW"),
  (0x1F835, "", "UPWARDS FINGER-POST ARROW;RIGHTWARDS FINGER-POST ARROW;DOWNWARDS FINGER-POST ARROW"),
  (0x1F838, "", "LEFTWARDS SQUARED ARROW;UPWARDS SQUARED ARROW;RIGHTWARDS SQUARED ARROW;DOWNWARDS SQUARED ARROW"),
  (0x1F83C, "", "LEFTWARDS COMPRESSED ARROW;UPWARDS COMPRESSED ARROW;RIGHTWARDS COMPRESSED ARROW"),
  (0x1F83F, "", "DOWNWARDS COMPRESSED ARROW;LEFTWARDS HEAVY COMPRESSED ARROW;UPWARDS HEAVY COMPRESSED ARROW"),
  (0x1F842, "", "RIGHTWARDS HEAVY COMPRESSED ARROW;DOWNWARDS HEAVY COMPRESSED ARROW;LEFTWARDS HEAVY ARROW"),
  (0x1F845, "", "UPWARDS HEAVY ARROW;RIGHTWARDS HEAVY ARROW;DOWNWARDS HEAVY ARROW"),
  (0x1F850, "", "LEFTWARDS SANS-SERIF ARROW;UPWARDS SANS-SERIF ARROW;RIGHTWARDS SANS-SERIF ARROW"),
  (0x1F853, "", "DOWNWARDS SANS-SERIF ARROW;NORTH WEST SANS-SERIF ARROW;NORTH EAST SANS-SERIF ARROW"),
  (0x1F856, "SOUTH ", "EAST SANS-SERIF ARROW;WEST SANS-SERIF ARROW"),
  (0x1F858, "", "LEFT RIGHT SANS-SERIF ARROW;UP DOWN SANS-SERIF ARROW"),
  (0x1F860, "WIDE-HEADED ", "LEFTWARDS LIGHT BARB ARROW;UPWARDS LIGHT BARB ARROW;RIGHTWARDS LIGHT BARB ARROW"),
  (0x1F863, "WIDE-HEADED ", "DOWNWARDS LIGHT BARB ARROW;NORTH WEST LIGHT BARB ARROW;NORTH EAST LIGHT BARB ARROW"),
  (0x1F866, "WIDE-HEADED ", "SOUTH EAST LIGHT BARB ARROW;SOUTH WEST LIGHT BARB ARROW;LEFTWARDS BARB ARROW"),
  (0x1F869, "WIDE-HEADED ", "UPWARDS BARB ARROW;RIGHTWARDS BARB ARROW;DOWNWARDS BARB ARROW;NORTH WEST BARB ARROW")]

/-- The names from U+1F86D on. -/
def names1F86D : List NameRow := [
  (0x1F86D, "WIDE-HEADED ", "NORTH EAST BARB ARROW;SOUTH EAST BARB ARROW;SOUTH WEST BARB ARROW"),
  (0x1F870, "WIDE-HEADED ", "LEFTWARDS MEDIUM BARB ARROW;UPWARDS MEDIUM BARB ARROW;RIGHTWARDS MEDIUM BARB ARROW"),
  (0x1F873, "WIDE-HEADED ", "DOWNWARDS MEDIUM BARB ARROW;NORTH WEST MEDIUM BARB ARROW;NORTH EAST MEDIUM BARB ARROW"),
  (0x1F876, "WIDE-HEADED ", "SOUTH EAST MEDIUM BARB ARROW;SOUTH WEST MEDIUM BARB ARROW;LEFTWARDS HEAVY BARB ARROW"),
  (0x1F879, "WIDE-HEADED ", "UPWARDS HEAVY BARB ARROW;RIGHTWARDS HEAVY BARB ARROW;DOWNWARDS HEAVY BARB ARROW"),
  (0x1F87C, "WIDE-HEADED NORTH ", "WEST HEAVY BARB ARROW;EAST HEAVY BARB ARROW"),
  (0x1F87E, "WIDE-HEADED SOUTH ", "EAST HEAVY BARB ARROW;WEST HEAVY BARB ARROW"),
  (0x1F880, "WIDE-HEADED ", "LEFTWARDS VERY HEAVY BARB ARROW;UPWARDS VERY HEAVY BARB ARROW"),
  (0x1F882, "WIDE-HEADED ", "RIGHTWARDS VERY HEAVY BARB ARROW;DOWNWARDS VERY HEAVY BARB ARROW"),
  (0x1F884, "WIDE-HEADED NORTH ", "WEST VERY HEAVY BARB ARROW;EAST VERY HEAVY BARB ARROW"),
  (0x1F886, "WIDE-HEADED SOUTH ", "EAST VERY HEAVY BARB ARROW;WEST VERY HEAVY BARB ARROW"),
  (0x1F890, "", "LEFTWARDS TRIANGLE ARROWHEAD;UPWARDS TRIANGLE ARROWHEAD;RIGHTWARDS TRIANGLE ARROWHEAD"),
  (0x1F893, "", "DOWNWARDS TRIANGLE ARROWHEAD;LEFTWARDS WHITE ARROW WITHIN TRIANGLE ARROWHEAD"),
  (0x1F895, "", "UPWARDS WHITE ARROW WITHIN TRIANGLE ARROWHEAD;RIGHTWARDS WHITE ARROW WITHIN TRIANGLE ARROWHEAD"),
  (0x1F897, "", "DOWNWARDS WHITE ARROW WITHIN TRIANGLE ARROWHEAD;LEFTWARDS ARROW WITH NOTCHED TAIL"),
  (0x1F899, "", "UPWARDS ARROW WITH NOTCHED TAIL;RIGHTWARDS ARROW WITH NOTCHED TAIL"),
  (0x1F89B, "DOWNWARDS ARROW WITH NOTCHED ", "TAIL"),
  (0x1F89C, "HEAVY ARROW SHAFT WIDTH ", "ONE;TWO THIRDS;ONE HALF;ONE THIRD"),
  (0x1F8A0, "", "LEFTWARDS BOTTOM-SHADED WHITE ARROW;RIGHTWARDS BOTTOM SHADED WHITE ARROW"),
  (0x1F8A2, "", "LEFTWARDS TOP SHADED WHITE ARROW;RIGHTWARDS TOP SHADED WHITE ARROW"),
  (0x1F8A4, "", "LEFTWARDS LEFT-SHADED WHITE ARROW;RIGHTWARDS RIGHT-SHADED WHITE ARROW"),
  (0x1F8A6, "", "LEFTWARDS RIGHT-SHADED WHITE ARROW;RIGHTWARDS LEFT-SHADED WHITE ARROW"),
  (0x1F8A8, "", "LEFTWARDS BACK-TILTED SHADOWED WHITE ARROW;RIGHTWARDS BACK-TILTED SHADOWED WHITE ARROW"),
  (0x1F8AA, "", "LEFTWARDS FRONT-TILTED SHADOWED WHITE ARROW;RIGHTWARDS FRONT-TILTED SHADOWED WHITE ARROW"),
  (0x1F8AC, "WHITE ARROW SHAFT WIDTH ", "ONE;TWO THIRDS"),
  (0x1F8B0, "ARROW POINTING ", "UPWARDS THEN NORTH WEST;RIGHTWARDS THEN CURVING SOUTH WEST"),
  (0x1F900, "CIRCLED CROSS ", "FORMEE WITH FOUR DOTS;FORMEE WITH TWO DOTS;FORMEE"),
  (0x1F903, "LEFT HALF CIRCLE WITH ", "FOUR DOTS;THREE DOTS;TWO DOTS;DOT"), (0x1F907, "LEFT HALF ", "CIRCLE"),
  (0x1F908, "DOWNWARD FACING ", "HOOK;NOTCHED HOOK;HOOK WITH DOT;NOTCHED HOOK WITH DOT"),
  (0x1F90C, "", "PINCHED FINGERS;WHITE HEART;BROWN HEART;PINCHING HAND;ZIPPER-MOUTH FACE;MONEY-MOUTH FACE"),
  (0x1F912, "", "FACE WITH THERMOMETER;NERD FACE;THINKING FACE;FACE WITH HEAD-BANDAGE;ROBOT FACE;HUGGING FACE"),
  (0x1F918, "", "SIGN OF THE HORNS;CALL ME HAND;RAISED BACK OF HAND;LEFT-FACING FIST;RIGHT-FACING FIST;HANDSHAKE"),
  (0x1F91E, "", "HAND WITH INDEX AND MIDDLE FINGERS CROSSED;I LOVE YOU HAND SIGN;FACE WITH COWBOY HAT;CLOWN FACE"),
  (0x1F922, "", "NAUSEATED FACE;ROLLING ON THE FLOOR LAUGHING;DROOLING FACE;LYING FACE;FACE PALM;SNEEZING FACE"),
  (0x1F928, "FACE WITH ONE EYEBROW ", "RAISED"),
  (0x1F929, "GRINNING FACE WITH ", "STAR EYES;ONE LARGE AND ONE SMALL EYE"),
  (0x1F92B, "", "FACE WITH FINGER COVERING CLOSED LIPS;SERIOUS FACE WITH SYMBOLS COVERING MOUTH"),
  (0x1F92D, "", "SMILING FACE WITH SMILING EYES AND HAND COVERING MOUTH;FACE WITH OPEN MOUTH VOMITING"),
  (0x1F92F, "", "SHOCKED FACE WITH EXPLODING HEAD;PREGNANT WOMAN;BREAST-FEEDING;PALMS UP TOGETHER;SELFIE;PRINCE"),
  (0x1F935, "", "MAN IN TUXEDO;MOTHER CHRISTMAS;SHRUG;PERSON DOING CARTWHEEL;JUGGLING;FENCER;MODERN PENTATHLON"),
  (0x1F93C, "", "WRESTLERS;WATER POLO;HANDBALL;DIVING MASK;WILTED FLOWER;DRUM WITH DRUMSTICKS;CLINKING GLASSES"),
  (0x1F943, "", "TUMBLER GLASS;SPOON;GOAL NET;RIFLE;FIRST PLACE MEDAL;SECOND PLACE MEDAL;THIRD PLACE MEDAL"),
  (0x1F94A, "", "BOXING GLOVE;MARTIAL ARTS UNIFORM;CURLING STONE;LACROSSE STICK AND BALL;SOFTBALL;FLYING DISC"),
  (0x1F950, "", "CROISSANT;AVOCADO;CUCUMBER;BACON;POTATO;CARROT;BAGUETTE BREAD;GREEN SALAD;SHALLOW PAN OF FOOD"),
  (0x1F959, "", "STUFFED FLATBREAD;EGG;GLASS OF MILK;PEANUTS;KIWIFRUIT;PANCAKES;DUMPLING;FORTUNE COOKIE;TAKEOUT BOX"),
  (0x1F962, "", "CHOPSTICKS;BOWL WITH SPOON;CUP WITH STRAW;COCONUT;BROCCOLI;PIE;PRETZEL;CUT OF MEAT;SANDWICH"),
  (0x1F96B, "", "CANNED FOOD;LEAFY GREEN;MANGO;MOON CAKE;BAGEL;SMILING FACE WITH SMILING EYES AND THREE HEARTS"),
  (0x1F971, "", "YAWNING FACE;SMILING FACE WITH TEAR;FACE WITH PARTY HORN AND PARTY HAT"),
  (0x1F974, "", "FACE WITH UNEVEN EYES AND WAVY MOUTH;OVERHEATED FACE;FREEZING FACE;NINJA;DISGUISED FACE"),
  (0x1F979, "", "FACE HOLDING BACK TEARS;FACE WITH PLEADING EYES;SARI;LAB COAT;GOGGLES;HIKING BOOT;FLAT SHOE;CRAB"),
  (0x1F981, "", "LION FACE;SCORPION;TURKEY;UNICORN FACE;EAGLE;DUCK;BAT;SHARK;OWL;FOX FACE;BUTTERFLY;DEER;GORILLA"),
  (0x1F98E, "", "LIZARD;RHINOCEROS;SHRIMP;SQUID;GIRAFFE FACE;ZEBRA FACE;HEDGEHOG;SAUROPOD;T-REX;CRICKET;KANGAROO"),
  (0x1F999, "", "LLAMA;PEACOCK;HIPPOPOTAMUS;PARROT;RACCOON;LOBSTER;MOSQUITO;MICROBE;BADGER;SWAN;MAMMOTH;DODO;SLOTH"),
  (0x1F9A6, "", "OTTER;ORANGUTAN;SKUNK;FLAMINGO;OYSTER;BEAVER;BISON;SEAL;GUIDE DOG;PROBING CANE"),
  (0x1F9B0, "EMOJI COMPONENT ", "RED HAIR;CURLY HAIR;BALD;WHITE HAIR"),
  (0x1F9B4, "", "BONE;LEG;FOOT;TOOTH;SUPERHERO;SUPERVILLAIN;SAFETY VEST;EAR WITH HEARING AID;MOTORIZED WHEELCHAIR"),
  (0x1F9BD, "", "MANUAL WHEELCHAIR;MECHANICAL ARM;MECHANICAL LEG;CHEESE WEDGE;CUPCAKE;SALT SHAKER;BEVERAGE BOX"),
  (0x1F9C4, "", "GARLIC;ONION;FALAFEL;WAFFLE;BUTTER;MATE DRINK;ICE CUBE;BUBBLE TEA;TROLL;STANDING PERSON"),
  (0x1F9CE, "", "KNEELING PERSON;DEAF PERSON;FACE WITH MONOCLE;ADULT;CHILD;OLDER ADULT;BEARDED PERSON"),
  (0x1F9D5, "PERSON ", "WITH HEADSCARF;IN STEAMY ROOM;CLIMBING;IN LOTUS POSITION"),
  (0x1F9D9, "", "MAGE;FAIRY;VAMPIRE;MERPERSON;ELF;GENIE;ZOMBIE;BRAIN;ORANGE HEART;BILLED CAP;SCARF;GLOVES;COAT"),
  (0x1F9E6, "", "SOCKS;RED GIFT ENVELOPE;FIRECRACKER;JIGSAW PUZZLE PIECE;TEST TUBE;PETRI DISH;DNA DOUBLE HELIX"),
  (0x1F9ED, "", "COMPASS;ABACUS;FIRE EXTINGUISHER;TOOLBOX;BRICK;MAGNET;LUGGAGE;LOTION BOTTLE;SPOOL OF THREAD"),
  (0x1F9F6, "", "BALL OF YARN;SAFETY PIN;TEDDY BEAR;BROOM;BASKET;ROLL OF PAPER;BAR OF SOAP;SPONGE;RECEIPT"),
  (0x1F9FF, "NAZAR ", "AMULET"), (0x1FA00, "NEUTRAL CHESS ", "KING;QUEEN;ROOK;BISHOP;KNIGHT;PAWN"),
  (0x1FA06, "", "WHITE CHESS KNIGHT ROTATED FORTY-FIVE DEGREES;BLACK CHESS KNIGHT ROTATED FORTY-FIVE DEGREES"),
  (0x1FA08, "", "NEUTRAL CHESS KNIGHT ROTATED FORTY-FIVE DEGREES;WHITE CHESS KING ROTATED NINETY DEGREES"),
  (0x1FA0A, "WHITE CHESS ", "QUEEN ROTATED NINETY DEGREES;ROOK ROTATED NINETY DEGREES;BISHOP ROTATED NINETY DEGREES"),
  (0x1FA0D, "WHITE CHESS ", "KNIGHT ROTATED NINETY DEGREES;PAWN ROTATED NINETY DEGREES"),
  (0x1FA0F, "BLACK CHESS ", "KING ROTATED NINETY DEGREES;QUEEN ROTATED NINETY DEGREES;ROOK ROTATED NINETY DEGREES"),
  (0x1FA12, "BLACK CHESS ", "BISHOP ROTATED NINETY DEGREES;KNIGHT ROTATED NINETY DEGREES"),
  (0x1FA14, "BLACK CHESS PAWN ROTATED NINETY ", "DEGREES"),
  (0x1FA15, "NEUTRAL CHESS ", "KING ROTATED NINETY DEGREES;QUEEN ROTATED NINETY DEGREES;ROOK ROTATED NINETY DEGREES"),
  (0x1FA18, "NEUTRAL CHESS ", "BISHOP ROTATED NINETY DEGREES;KNIGHT ROTATED NINETY DEGREES"),
  (0x1FA1A, "NEUTRAL CHESS PAWN ROTATED NINETY ", "DEGREES"),
  (0x1FA1B, "WHITE CHESS KNIGHT ROTATED ONE HUNDRED THIRTY-FIVE ", "DEGREES"),
  (0x1FA1C, "BLACK CHESS KNIGHT ROTATED ONE HUNDRED THIRTY-FIVE ", "DEGREES"),
  (0x1FA1D, "NEUTRAL CHESS KNIGHT ROTATED ONE HUNDRED THIRTY-FIVE ", "DEGREES"),
  (0x1FA1E, "WHITE CHESS TURNED ", "KING;QUEEN;ROOK;BISHOP;KNIGHT;PAWN"),
  (0x1FA24, "BLACK CHESS TURNED ", "KING;QUEEN;ROOK;BISHOP;KNIGHT;PAWN"),
  (0x1FA2A, "NEUTRAL CHESS TURNED ", "KING;QUEEN;ROOK;BISHOP;KNIGHT;PAWN"),
  (0x1FA30, "WHITE CHESS KNIGHT ROTATED TWO HUNDRED TWENTY-FIVE ", "DEGREES"),
  (0x1FA31, "BLACK CHESS KNIGHT ROTATED TWO HUNDRED TWENTY-FIVE ", "DEGREES"),
  (0x1FA32, "NEUTRAL CHESS KNIGHT ROTATED TWO HUNDRED TWENTY-FIVE ", "DEGREES"),
  (0x1FA33, "WHITE CHESS ", "KING ROTATED TWO HUNDRED SEVENTY DEGREES;QUEEN ROTATED TWO HUNDRED SEVENTY DEGREES"),
  (0x1FA35, "WHITE CHESS ", "ROOK ROTATED TWO HUNDRED SEVENTY DEGREES;BISHOP ROTATED TWO HUNDRED SEVENTY DEGREES"),
  (0x1FA37, "WHITE CHESS ", "KNIGHT ROTATED TWO HUNDRED SEVENTY DEGREES;PAWN ROTATED TWO HUNDRED SEVENTY DEGREES"),
  (0x1FA39, "BLACK CHESS ", "KING ROTATED TWO HUNDRED SEVENTY DEGREES;QUEEN ROTATED TWO HUNDRED SEVENTY DEGREES"),
  (0x1FA3B, "BLACK CHESS ", "ROOK ROTATED TWO HUNDRED SEVENTY DEGREES;BISHOP ROTATED TWO HUNDRED SEVENTY DEGREES"),
  (0x1FA3D, "BLACK CHESS ", "KNIGHT ROTATED TWO HUNDRED SEVENTY DEGREES;PAWN ROTATED TWO HUNDRED SEVENTY DEGREES"),
  (0x1FA3F, "NEUTRAL CHESS ", "KING ROTATED TWO HUNDRED SEVENTY DEGREES;QUEEN ROTATED TWO HUNDRED SEVENTY DEGREES"),
  (0x1FA41, "NEUTRAL CHESS ", "ROOK ROTATED TWO HUNDRED SEVENTY DEGREES;BISHOP ROTATED TWO HUNDRED SEVENTY DEGREES"),
  (0x1FA43, "NEUTRAL CHESS ", "KNIGHT ROTATED TWO HUNDRED SEVENTY DEGREES;PAWN ROTATED TWO HUNDRED SEVENTY DEGREES"),
  (0x1FA45, "WHITE CHESS KNIGHT ROTATED THREE HUNDRED FIFTEEN ", "DEGREES"),
  (0x1FA46, "BLACK CHESS KNIGHT ROTATED THREE HUNDRED FIFTEEN ", "DEGREES"),
  (0x1FA47, "", "NEUTRAL CHESS KNIGHT ROTATED THREE HUNDRED FIFTEEN DEGREES;WHITE CHESS EQUIHOPPER"),
  (0x1FA49, "", "BLACK CHESS EQUIHOPPER;NEUTRAL CHESS EQUIHOPPER;WHITE CHESS EQUIHOPPER ROTATED NINETY DEGREES"),
  (0x1FA4C, "", "BLACK CHESS EQUIHOPPER ROTATED NINETY DEGREES;NEUTRAL CHESS EQUIHOPPER ROTATED NINETY DEGREES")]

/-- The names from U+1FA4E on. -/
def names1FA4E : List NameRow := [
  (0x1FA4E, "WHITE CHESS KNIGHT-", "QUEEN;ROOK;BISHOP"), (0x1FA51, "BLACK CHESS KNIGHT-", "QUEEN;ROOK;BISHOP"),
  (0x1FA60, "XIANGQI RED ", "GENERAL;MANDARIN;ELEPHANT;HORSE;CHARIOT;CANNON;SOLDIER"),
  (0x1FA67, "XIANGQI BLACK ", "GENERAL;MANDARIN;ELEPHANT;HORSE;CHARIOT;CANNON;SOLDIER"),
  (0x1FA70, "", "BALLET SHOES;ONE-PIECE SWIMSUIT;BRIEFS;SHORTS;THONG SANDAL"),
  (0x1FA78, "", "DROP OF BLOOD;ADHESIVE BANDAGE;STETHOSCOPE;X-RAY;CRUTCH"),
  (0x1FA80, "", "YO-YO;KITE;PARACHUTE;BOOMERANG;MAGIC WAND;PINATA;NESTING DOLLS"),
  (0x1FA90, "", "RINGED PLANET;CHAIR;RAZOR;AXE;DIYA LAMP;BANJO;MILITARY HELMET;ACCORDION;LONG DRUM;COIN"),
  (0x1FA9A, "", "CARPENTRY SAW;SCREWDRIVER;LADDER;HOOK;MIRROR;WINDOW;PLUNGER;SEWING NEEDLE;KNOT;BUCKET;MOUSE TRAP"),
  (0x1FAA5, "", "TOOTHBRUSH;HEADSTONE;PLACARD;ROCK;MIRROR BALL;IDENTIFICATION CARD;LOW BATTERY;HAMSA"),
  (0x1FAB0, "", "FLY;WORM;BEETLE;COCKROACH;POTTED PLANT;WOOD;FEATHER;LOTUS;CORAL;EMPTY NEST;NEST WITH EGGS"),
  (0x1FAC0, "", "ANATOMICAL HEART;LUNGS;PEOPLE HUGGING;PREGNANT MAN;PREGNANT PERSON;PERSON WITH CROWN"),
  (0x1FAD0, "", "BLUEBERRIES;BELL PEPPER;OLIVE;FLATBREAD;TAMALE;FONDUE;TEAPOT;POURING LIQUID;BEANS;JAR"),
  (0x1FAE0, "", "MELTING FACE;SALUTING FACE"),
  (0x1FAE2, "FACE WITH ", "OPEN EYES AND HAND OVER MOUTH;PEEKING EYE;DIAGONAL MOUTH"),
  (0x1FAE5, "", "DOTTED LINE FACE;BITING LIP;BUBBLES"),
  (0x1FAF0, "", "HAND WITH INDEX FINGER AND THUMB CROSSED;RIGHTWARDS HAND;LEFTWARDS HAND;PALM DOWN HAND"),
  (0x1FAF4, "", "PALM UP HAND;INDEX POINTING AT THE VIEWER;HEART HANDS"),
  (0x1FB00, "BLOCK SEXTANT-", "1;2;12;3;13;23;123;4;14;24;124;34;134;234;1234;5;15;25;125;35;235;1235;45;145;245"),
  (0x1FB19, "BLOCK SEXTANT-", "1245;345;1345;2345;12345;6;16;26;126;36;136;236;1236;46;146;1246;346;1346;2346;12346"),
  (0x1FB2D, "BLOCK SEXTANT-", "56;156;256;1256;356;1356;2356;12356;456;1456;2456;12456;3456;13456;23456"),
  (0x1FB3C, "LOWER LEFT BLOCK DIAGONAL LOWER MIDDLE LEFT TO LOWER ", "CENTRE;RIGHT"),
  (0x1FB3E, "LOWER LEFT BLOCK DIAGONAL UPPER MIDDLE LEFT TO LOWER ", "CENTRE;RIGHT"),
  (0x1FB40, "LOWER LEFT BLOCK DIAGONAL UPPER LEFT TO LOWER ", "CENTRE"),
  (0x1FB41, "LOWER RIGHT BLOCK DIAGONAL UPPER MIDDLE LEFT TO UPPER ", "CENTRE;RIGHT"),
  (0x1FB43, "LOWER RIGHT BLOCK DIAGONAL LOWER MIDDLE LEFT TO UPPER ", "CENTRE;RIGHT"),
  (0x1FB45, "LOWER RIGHT BLOCK DIAGONAL LOWER ", "LEFT TO UPPER CENTRE;MIDDLE LEFT TO UPPER MIDDLE RIGHT"),
  (0x1FB47, "LOWER RIGHT BLOCK DIAGONAL LOWER ", "CENTRE TO LOWER MIDDLE RIGHT;LEFT TO LOWER MIDDLE RIGHT"),
  (0x1FB49, "LOWER RIGHT BLOCK DIAGONAL LOWER ", "CENTRE TO UPPER MIDDLE RIGHT;LEFT TO UPPER MIDDLE RIGHT"),
  (0x1FB4B, "LOWER RIGHT BLOCK DIAGONAL LOWER CENTRE TO UPPER ", "RIGHT"),
  (0x1FB4C, "LOWER LEFT BLOCK DIAGONAL UPPER ", "CENTRE TO UPPER MIDDLE RIGHT;LEFT TO UPPER MIDDLE RIGHT"),
  (0x1FB4E, "LOWER LEFT BLOCK DIAGONAL UPPER ", "CENTRE TO LOWER MIDDLE RIGHT;LEFT TO LOWER MIDDLE RIGHT"),
  (0x1FB50, "LOWER LEFT BLOCK DIAGONAL UPPER ", "CENTRE TO LOWER RIGHT;MIDDLE LEFT TO LOWER MIDDLE RIGHT"),
  (0x1FB52, "UPPER RIGHT BLOCK DIAGONAL LOWER MIDDLE LEFT TO LOWER ", "CENTRE;RIGHT"),
  (0x1FB54, "UPPER RIGHT BLOCK DIAGONAL UPPER MIDDLE LEFT TO LOWER ", "CENTRE;RIGHT"),
  (0x1FB56, "UPPER RIGHT BLOCK DIAGONAL UPPER LEFT TO LOWER ", "CENTRE"),
  (0x1FB57, "UPPER LEFT BLOCK DIAGONAL UPPER MIDDLE LEFT TO UPPER ", "CENTRE;RIGHT"),
  (0x1FB59, "UPPER LEFT BLOCK DIAGONAL LOWER MIDDLE LEFT TO UPPER ", "CENTRE;RIGHT"),
  (0x1FB5B, "UPPER LEFT BLOCK DIAGONAL LOWER ", "LEFT TO UPPER CENTRE;MIDDLE LEFT TO UPPER MIDDLE RIGHT"),
  (0x1FB5D, "UPPER LEFT BLOCK DIAGONAL LOWER ", "CENTRE TO LOWER MIDDLE RIGHT;LEFT TO LOWER MIDDLE RIGHT"),
  (0x1FB5F, "UPPER LEFT BLOCK DIAGONAL LOWER ", "CENTRE TO UPPER MIDDLE RIGHT;LEFT TO UPPER MIDDLE RIGHT"),
  (0x1FB61, "UPPER LEFT BLOCK DIAGONAL LOWER CENTRE TO UPPER ", "RIGHT"),
  (0x1FB62, "UPPER RIGHT BLOCK DIAGONAL UPPER ", "CENTRE TO UPPER MIDDLE RIGHT;LEFT TO UPPER MIDDLE RIGHT"),
  (0x1FB64, "UPPER RIGHT BLOCK DIAGONAL UPPER ", "CENTRE TO LOWER MIDDLE RIGHT;LEFT TO LOWER MIDDLE RIGHT"),
  (0x1FB66, "UPPER RIGHT BLOCK DIAGONAL UPPER ", "CENTRE TO LOWER RIGHT;MIDDLE LEFT TO LOWER MIDDLE RIGHT"),
  (0x1FB68, "UPPER AND RIGHT AND LOWER TRIANGULAR THREE QUARTERS ", "BLOCK"),
  (0x1FB69, "LEFT AND LOWER AND RIGHT TRIANGULAR THREE QUARTERS ", "BLOCK"),
  (0x1FB6A, "UPPER AND LEFT AND LOWER TRIANGULAR THREE QUARTERS ", "BLOCK"),
  (0x1FB6B, "LEFT ", "AND UPPER AND RIGHT TRIANGULAR THREE QUARTERS BLOCK;TRIANGULAR ONE QUARTER BLOCK"),
  (0x1FB6D, "", "UPPER TRIANGULAR ONE QUARTER BLOCK;RIGHT TRIANGULAR ONE QUARTER BLOCK"),
  (0x1FB6F, "LOWER TRIANGULAR ONE QUARTER ", "BLOCK"), (0x1FB70, "VERTICAL ONE EIGHTH BLOCK-", "2;3;4;5;6;7"),
  (0x1FB76, "HORIZONTAL ONE EIGHTH BLOCK-", "2;3;4;5;6;7"),
  (0x1FB7C, "LEFT AND ", "LOWER ONE EIGHTH BLOCK;UPPER ONE EIGHTH BLOCK"),
  (0x1FB7E, "RIGHT AND ", "UPPER ONE EIGHTH BLOCK;LOWER ONE EIGHTH BLOCK"),
  (0x1FB80, "", "UPPER AND LOWER ONE EIGHTH BLOCK;HORIZONTAL ONE EIGHTH BLOCK-1358;UPPER ONE QUARTER BLOCK"),
  (0x1FB83, "UPPER ", "THREE EIGHTHS BLOCK;FIVE EIGHTHS BLOCK;THREE QUARTERS BLOCK;SEVEN EIGHTHS BLOCK"),
  (0x1FB87, "RIGHT ", "ONE QUARTER BLOCK;THREE EIGHTHS BLOCK;FIVE EIGHTHS BLOCK;THREE QUARTERS BLOCK"),
  (0x1FB8B, "", "RIGHT SEVEN EIGHTHS BLOCK;LEFT HALF MEDIUM SHADE;RIGHT HALF MEDIUM SHADE;UPPER HALF MEDIUM SHADE"),
  (0x1FB8F, "", "LOWER HALF MEDIUM SHADE;INVERSE MEDIUM SHADE"),
  (0x1FB91, "UPPER HALF ", "BLOCK AND LOWER HALF INVERSE MEDIUM SHADE;INVERSE MEDIUM SHADE AND LOWER HALF BLOCK"),
  (0x1FB94, "", "LEFT HALF INVERSE MEDIUM SHADE AND RIGHT HALF BLOCK;CHECKER BOARD FILL;INVERSE CHECKER BOARD FILL"),
  (0x1FB97, "", "HEAVY HORIZONTAL FILL;UPPER LEFT TO LOWER RIGHT FILL;UPPER RIGHT TO LOWER LEFT FILL"),
  (0x1FB9A, "", "UPPER AND LOWER TRIANGULAR HALF BLOCK;LEFT AND RIGHT TRIANGULAR HALF BLOCK"),
  (0x1FB9C, "UPPER ", "LEFT TRIANGULAR MEDIUM SHADE;RIGHT TRIANGULAR MEDIUM SHADE"),
  (0x1FB9E, "LOWER ", "RIGHT TRIANGULAR MEDIUM SHADE;LEFT TRIANGULAR MEDIUM SHADE"),
  (0x1FBA0, "BOX DRAWINGS LIGHT DIAGONAL UPPER CENTRE TO MIDDLE ", "LEFT;RIGHT"),
  (0x1FBA2, "BOX DRAWINGS LIGHT DIAGONAL MIDDLE ", "LEFT TO LOWER CENTRE;RIGHT TO LOWER CENTRE"),
  (0x1FBA4, "BOX DRAWINGS LIGHT DIAGONAL UPPER CENTRE TO MIDDLE ", "LEFT TO LOWER CENTRE;RIGHT TO LOWER CENTRE"),
  (0x1FBA6, "BOX DRAWINGS LIGHT DIAGONAL MIDDLE LEFT TO LOWER CENTRE TO MIDDLE ", "RIGHT"),
  (0x1FBA7, "BOX DRAWINGS LIGHT DIAGONAL MIDDLE LEFT TO UPPER CENTRE TO MIDDLE ", "RIGHT"),
  (0x1FBA8, "BOX DRAWINGS LIGHT DIAGONAL UPPER CENTRE TO MIDDLE LEFT AND MIDDLE RIGHT TO LOWER ", "CENTRE"),
  (0x1FBA9, "BOX DRAWINGS LIGHT DIAGONAL UPPER CENTRE TO MIDDLE RIGHT AND MIDDLE LEFT TO LOWER ", "CENTRE"),
  (0x1FBAA, "BOX DRAWINGS LIGHT DIAGONAL UPPER CENTRE TO MIDDLE RIGHT TO LOWER CENTRE TO MIDDLE ", "LEFT"),
  (0x1FBAB, "BOX DRAWINGS LIGHT DIAGONAL UPPER CENTRE TO MIDDLE LEFT TO LOWER CENTRE TO MIDDLE ", "RIGHT"),
  (0x1FBAC, "BOX DRAWINGS LIGHT DIAGONAL MIDDLE LEFT TO UPPER CENTRE TO MIDDLE RIGHT TO LOWER ", "CENTRE"),
  (0x1FBAD, "BOX DRAWINGS LIGHT DIAGONAL ", "MIDDLE RIGHT TO UPPER CENTRE TO MIDDLE LEFT TO LOWER CENTRE;DIAMOND"),
  (0x1FBAF, "", "BOX DRAWINGS LIGHT HORIZONTAL WITH VERTICAL STROKE;ARROWHEAD-SHAPED POINTER;INVERSE CHECK MARK"),
  (0x1FBB2, "", "LEFT HALF RUNNING MAN;RIGHT HALF RUNNING MAN;INVERSE DOWNWARDS ARROW WITH TIP LEFTWARDS"),
  (0x1FBB5, "LEFTWARDS ARROW AND UPPER AND LOWER ONE EIGHTH ", "BLOCK"),
  (0x1FBB6, "", "RIGHTWARDS ARROW AND UPPER AND LOWER ONE EIGHTH BLOCK;DOWNWARDS ARROW AND RIGHT ONE EIGHTH BLOCK"),
  (0x1FBB8, "", "UPWARDS ARROW AND RIGHT ONE EIGHTH BLOCK;LEFT HALF FOLDER;RIGHT HALF FOLDER;VOIDED GREEK CROSS"),
  (0x1FBBC, "RIGHT OPEN SQUARED ", "DOT"),
  (0x1FBBD, "NEGATIVE DIAGONAL ", "CROSS;MIDDLE RIGHT TO LOWER CENTRE;DIAMOND"),
  (0x1FBC0, "", "WHITE HEAVY SALTIRE WITH ROUNDED CORNERS;LEFT THIRD WHITE RIGHT POINTING INDEX"),
  (0x1FBC2, "", "MIDDLE THIRD WHITE RIGHT POINTING INDEX;RIGHT THIRD WHITE RIGHT POINTING INDEX"),
  (0x1FBC4, "", "NEGATIVE SQUARED QUESTION MARK;STICK FIGURE"),
  (0x1FBC6, "STICK FIGURE ", "WITH ARMS RAISED;LEANING LEFT;LEANING RIGHT;WITH DRESS"),
  (0x1FBCA, "WHITE UP-POINTING ", "CHEVRON"),
  (0x1FBF0, "SEGMENTED DIGIT ", "ZERO;ONE;TWO;THREE;FOUR;FIVE;SIX;SEVEN;EIGHT;NINE"), (0xE0001, "LANGUAGE ", "TAG"),
  (0xE0020, "TAG ", "SPACE;EXCLAMATION MARK;QUOTATION MARK;NUMBER SIGN;DOLLAR SIGN;PERCENT SIGN;AMPERSAND"),
  (0xE0027, "TAG ", "APOSTROPHE;LEFT PARENTHESIS;RIGHT PARENTHESIS;ASTERISK;PLUS SIGN;COMMA;HYPHEN-MINUS;FULL STOP"),
  (0xE002F, "TAG ", "SOLIDUS"), (0xE0030, "TAG DIGIT ", "ZERO;ONE;TWO;THREE;FOUR;FIVE;SIX;SEVEN;EIGHT;NINE"),
  (0xE003A, "TAG ", "COLON;SEMICOLON;LESS-THAN SIGN;EQUALS SIGN;GREATER-THAN SIGN;QUESTION MARK;COMMERCIAL AT"),
  (0xE0041, "TAG LATIN CAPITAL LETTER ", "A;B;C;D;E;F;G;H;I;J;K;L;M;N;O;P;Q;R;S;T;U;V;W;X;Y;Z"),
  (0xE005B, "TAG ", "LEFT SQUARE BRACKET;REVERSE SOLIDUS;RIGHT SQUARE BRACKET;CIRCUMFLEX ACCENT;LOW LINE"),
  (0xE0060, "TAG GRAVE ", "ACCENT"),
  (0xE0061, "TAG LATIN SMALL LETTER ", "A;B;C;D;E;F;G;H;I;J;K;L;M;N;O;P;Q;R;S;T;U;V;W;X;Y;Z")]

/-- The names from U+E007B on. -/
def namesE007B : List NameRow := [
  (0xE007B, "", "TAG LEFT CURLY BRACKET;TAG VERTICAL LINE;TAG RIGHT CURLY BRACKET;TAG TILDE;CANCEL TAG"),
  (0xE0100, "VARIATION SELECTOR-", "17;18;19;20;21;22;23;24;25;26;27;28;29;30;31;32;33;34;35;36;37;38;39;40;41;42"),
  (0xE011A, "VARIATION SELECTOR-", "43;44;45;46;47;48;49;50;51;52;53;54;55;56;57;58;59;60;61;62;63;64;65;66;67;68"),
  (0xE0134, "VARIATION SELECTOR-", "69;70;71;72;73;74;75;76;77;78;79;80;81;82;83;84;85;86;87;88;89;90;91;92;93;94"),
  (0xE014E, "VARIATION SELECTOR-", "95;96;97;98;99;100;101;102;103;104;105;106;107;108;109;110;111;112;113;114;115"),
  (0xE0163, "VARIATION SELECTOR-", "116;117;118;119;120;121;122;123;124;125;126;127;128;129;130;131;132;133;134;135"),
  (0xE0177, "VARIATION SELECTOR-", "136;137;138;139;140;141;142;143;144;145;146;147;148;149;150;151;152;153;154;155"),
  (0xE018B, "VARIATION SELECTOR-", "156;157;158;159;160;161;162;163;164;165;166;167;168;169;170;171;172;173;174;175"),
  (0xE019F, "VARIATION SELECTOR-", "176;177;178;179;180;181;182;183;184;185;186;187;188;189;190;191;192;193;194;195"),
  (0xE01B3, "VARIATION SELECTOR-", "196;197;198;199;200;201;202;203;204;205;206;207;208;209;210;211;212;213;214;215"),
  (0xE01C7, "VARIATION SELECTOR-", "216;217;218;219;220;221;222;223;224;225;226;227;228;229;230;231;232;233;234;235"),
  (0xE01DB, "VARIATION SELECTOR-", "236;237;238;239;240;241;242;243;244;245;246;247;248;249;250;251;252;253;254;255"),
  (0xE01EF, "VARIATION SELECTOR-", "256")]

/-- The rows of this part. -/
def supplementaryNames : List (List NameRow) := [
  names1B000, names1D034, names1D242, names1D7CE, names1D92F, names1DA74, names1ED2A, names1F1E6, names1F525,
  names1F6DD, names1F86D, names1FA4E, namesE007B]

end SourceAtlas.Unicode
