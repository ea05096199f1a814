import CloudMetrics.Text.Ranges

/-!
# Characters of domain names

A name is the same in capital and in small letters, in wide and in plain ones, raised or in a circle.
Each character of a name stays, is left out, or is spelled with others; the ones that are in no table may
not stand in a name. A character that normalization replaces is among those that stay.
-/
namespace CloudMetrics.Url

open Text

/-- Characters that are left out. -/
def droppedRanges : List (Nat × Nat) :=
  [(0xAD,0xAD),(0x34F,0x34F),(0x115F,0x1160),(0x17B4,0x17B5),(0x180B,0x180F),(0x200B,0x200B),
   (0x2060,0x2064),(0x206A,0x206F),(0x3164,0x3164),(0xFE00,0xFE0F),(0xFEFF,0xFEFF),(0xFFA0,0xFFA0),
   (0x1BCA0,0x1BCA3),(0x1D173,0x1D17A),(0xE0100,0xE01EF)]

/-- Ranges in which capital and small letters take turns, a capital first. -/
def alternatingRanges : List (Nat × Nat) :=
  [(0x100,0x12F),(0x134,0x137),(0x139,0x13E),(0x141,0x148),(0x14A,0x177),(0x179,0x17E),
   (0x182,0x185),(0x1A0,0x1A5),(0x1B3,0x1B6),(0x1CD,0x1DC),(0x1DE,0x1EF),(0x1F8,0x21F),
   (0x222,0x233),(0x246,0x24F),(0x370,0x373),(0x3D8,0x3EF),(0x460,0x481),(0x48A,0x4BF),
   (0x4C1,0x4CE),(0x4D0,0x52F),(0x1E00,0x1E95),(0x1EA0,0x1EFF),(0x2C67,0x2C6C),(0x2C80,0x2CE3),
   (0x2CEB,0x2CEE),(0xA640,0xA66D),(0xA680,0xA69B),(0xA722,0xA72F),(0xA732,0xA76F),(0xA779,0xA77C),
   (0xA77E,0xA787),(0xA790,0xA793),(0xA796,0xA7A9),(0xA7B4,0xA7C3),(0xA7C7,0xA7CA),(0xA7CC,0xA7DB)]

/-- Ranges whose characters are spelled with others at the same distance. -/
def shiftedRanges : List (Nat × Nat × Int) :=
  [(0x41,0x5A,32),(0xC0,0xD6,32),(0xD8,0xDE,32),(0x391,0x3A1,32),(0x3A3,0x3AB,32),(0x400,0x40F,80),
   (0x410,0x42F,32),(0x531,0x556,48),(0x10A0,0x10C5,7264),(0x13F8,0x13FD,-8),(0x1C90,0x1CBA,-3008),
   (0x1D33,0x1D3A,-7372),(0x1F08,0x1F0F,-8),(0x1F18,0x1F1D,-8),(0x1F28,0x1F2F,-8),
   (0x1F38,0x1F3F,-8),(0x1F48,0x1F4D,-8),(0x1F68,0x1F6F,-8),(0x2074,0x2079,-8256),
   (0x2080,0x2089,-8272),(0x2460,0x2468,-9263),(0x24B6,0x24CF,-9301),(0x24D0,0x24E9,-9327),
   (0x2C00,0x2C2F,48),(0x313A,0x313F,-8074),(0x3145,0x314E,-8252),(0x314F,0x3163,-8174),
   (0x3178,0x317C,-8269),(0x3269,0x326D,-8539),(0x32E4,0x32E9,-538),(0x32EE,0x32F2,-528),
   (0x32F5,0x32FA,-525),(0xAB70,0xABBF,-38864),(0xFF01,0xFF20,-65248),(0xFF21,0xFF3A,-65216),
   (0xFF3B,0xFF5E,-65248),(0xFF85,0xFF8A,-52923),(0xFF8F,0xFF93,-52913),(0xFF96,0xFF9B,-52910),
   (0xFFAA,0xFFAF,-60922),(0xFFB5,0xFFBE,-61100),(0xFFC2,0xFFC7,-61025),(0xFFCA,0xFFCF,-61027),
   (0xFFD2,0xFFD7,-61029),(0x10400,0x10427,40),(0x104B0,0x104D3,40),(0x10570,0x1057A,39),
   (0x1057C,0x1058A,39),(0x1058C,0x10592,39),(0x10C80,0x10CB2,64),(0x10D50,0x10D65,32),
   (0x118A0,0x118BF,32),(0x16E40,0x16E5F,32),(0x16EA0,0x16EB8,27),(0x1CCD6,0x1CCEF,-117877),
   (0x1CCF0,0x1CCF9,-117952),(0x1D400,0x1D419,-119711),(0x1D41A,0x1D433,-119737),
   (0x1D434,0x1D44D,-119763),(0x1D44E,0x1D454,-119789),(0x1D456,0x1D467,-119789),
   (0x1D468,0x1D481,-119815),(0x1D482,0x1D49B,-119841),(0x1D4AE,0x1D4B5,-119867),
   (0x1D4BD,0x1D4C3,-119893),(0x1D4C5,0x1D4CF,-119893),(0x1D4D0,0x1D4E9,-119919),
   (0x1D4EA,0x1D503,-119945),(0x1D50D,0x1D514,-119971),(0x1D516,0x1D51C,-119971),
   (0x1D51E,0x1D537,-119997),(0x1D540,0x1D544,-120023),(0x1D54A,0x1D550,-120023),
   (0x1D552,0x1D56B,-120049),(0x1D56C,0x1D585,-120075),(0x1D586,0x1D59F,-120101),
   (0x1D5A0,0x1D5B9,-120127),(0x1D5BA,0x1D5D3,-120153),(0x1D5D4,0x1D5ED,-120179),
   (0x1D5EE,0x1D607,-120205),(0x1D608,0x1D621,-120231),(0x1D622,0x1D63B,-120257),
   (0x1D63C,0x1D655,-120283),(0x1D656,0x1D66F,-120309),(0x1D670,0x1D689,-120335),
   (0x1D68A,0x1D6A3,-120361),(0x1D6A8,0x1D6B8,-119543),(0x1D6BA,0x1D6C0,-119543),
   (0x1D6C2,0x1D6D2,-119569),(0x1D6D4,0x1D6DA,-119569),(0x1D6E2,0x1D6F2,-119601),
   (0x1D6F4,0x1D6FA,-119601),(0x1D6FC,0x1D70C,-119627),(0x1D70E,0x1D714,-119627),
   (0x1D71C,0x1D72C,-119659),(0x1D72E,0x1D734,-119659),(0x1D736,0x1D746,-119685),
   (0x1D748,0x1D74E,-119685),(0x1D756,0x1D766,-119717),(0x1D768,0x1D76E,-119717),
   (0x1D770,0x1D780,-119743),(0x1D782,0x1D788,-119743),(0x1D790,0x1D7A0,-119775),
   (0x1D7A2,0x1D7A8,-119775),(0x1D7AA,0x1D7BA,-119801),(0x1D7BC,0x1D7C2,-119801),
   (0x1D7CE,0x1D7D7,-120734),(0x1D7D8,0x1D7E1,-120744),(0x1D7E2,0x1D7EB,-120754),
   (0x1D7EC,0x1D7F5,-120764),(0x1D7F6,0x1D7FF,-120774),(0x1E030,0x1E038,-121856),
   (0x1E03C,0x1E046,-121854),(0x1E051,0x1E059,-121889),(0x1E05F,0x1E064,-121884),
   (0x1E900,0x1E921,34),(0x1F130,0x1F149,-127183),(0x1FBF0,0x1FBF9,-129984)]

/-- Runs of characters that are spelled, from the first one on, each with the next one of the text. -/
def respelledRuns : List (Nat × String) :=
  [(0xA0," "),(0xAA,"a"),(0xB2,"23"),(0xB5,"μ"),(0xB9,"1o"),(0x178,"ÿ"),(0x17F,"s"),(0x181,"ɓ"),
   (0x186,"ɔƈ"),(0x189,"ɖɗƌ"),(0x18E,"ǝəɛƒ"),(0x193,"ɠɣ"),(0x196,"ɩɨƙ"),(0x19C,"ɯɲ"),(0x19F,"ɵ"),
   (0x1A6,"ʀƨ"),(0x1A9,"ʃ"),(0x1AC,"ƭ"),(0x1AE,"ʈư"),(0x1B1,"ʊʋ"),(0x1B7,"ʒƹ"),(0x1BC,"ƽ"),
   (0x1F4,"ǵ"),(0x1F6,"ƕƿ"),(0x220,"ƞ"),(0x23A,"ⱥȼ"),(0x23D,"ƚⱦ"),(0x241,"ɂ"),(0x243,"ƀʉʌ"),
   (0x2B0,"hɦjrɹɻʁwy"),(0x2E0,"ɣlsxʕ"),(0x345,"ι"),(0x376,"ͷ"),(0x37F,"ϳ"),(0x386,"ά"),
   (0x388,"έήί"),(0x38C,"ό"),(0x38E,"ύώ"),(0x3CF,"ϗβθυύϋφπ"),(0x3F0,"κρσ"),(0x3F4,"θε"),(0x3F7,"ϸ"),
   (0x3F9,"σϻ"),(0x3FD,"ͻͼͽ"),(0x4C0,"ӏ"),(0xF0C,"་"),(0x10C7,"ⴧ"),(0x10CD,"ⴭ"),(0x10FC,"ნ"),
   (0x1C80,"вдосттъѣꙋ\u1C8A"),(0x1CBD,"ჽჾჿ"),(0x1D2C,"aæb"),(0x1D30,"deǝ"),
   (0x1D3C,"oȣprtuwaɐɑᴂbdeəɛɜg"),(0x1D4F,"kmŋoɔᴖᴗptuᴝɯvᴥβγδφχiruvβγρφχ"),(0x1D78,"н"),
   (0x1D9B,"ɒcɕðɜfɟɡɥɨɩɪᵻʝɭᶅʟɱɰɲɳɴɵɸʂʃƫʉʊᴜʋʌzʐʑʒθ"),(0x1E9B,"ṡ"),(0x1E9E,"ß"),(0x1F59,"ὑ"),
   (0x1F5B,"ὓ"),(0x1F5D,"ὕ"),(0x1F5F,"ὗ"),(0x1FB8,"ᾰᾱὰά"),(0x1FC8,"ὲέὴή"),(0x1FD8,"ῐῑὶί"),
   (0x1FE8,"ῠῡὺύῥ"),(0x1FF8,"ὸόὼώ"),(0x2000,"           "),(0x2011,"‐"),(0x202F," "),(0x205F," "),
   (0x2070,"0i"),(0x207A,"+−=()n"),(0x208A,"+−=()"),(0x2090,"aeoxəhklmnpst"),(0x2102,"c"),
   (0x2107,"ɛ"),(0x210A,"ghhhhħiill"),(0x2115,"n"),(0x2119,"pqrrr"),(0x2124,"z"),(0x2126,"ω"),
   (0x2128,"z"),(0x212A,"kåbc"),(0x212F,"eefⅎmo\u05D0\u05D1\u05D2\u05D3i"),(0x213C,"πγγπ∑"),
   (0x2145,"ddeij"),(0x2160,"i"),(0x2164,"v"),(0x2169,"x"),(0x216C,"lcdmi"),(0x2174,"v"),
   (0x2179,"x"),(0x217C,"lcdm"),(0x2183,"ↄ"),(0x24EA,"0"),(0x2C60,"ⱡ"),(0x2C62,"ɫᵽɽ"),
   (0x2C6D,"ɑɱɐɒ"),(0x2C72,"ⱳ"),(0x2C75,"ⱶ"),(0x2C7C,"jvȿɀ"),(0x2CF2,"ⳳ"),(0x2D6F,"ⵡ"),
   (0x2E9F,"母"),(0x2EF3,"龟"),
   (0x2F00,"一丨丶丿乙亅二亠人儿入八冂冖冫几凵刀力勹匕匚匸十卜卩厂厶又口囗土士夂夊夕大女子宀"),
   (0x2F28,"寸小尢尸屮山巛工己巾干幺广廴廾弋弓彐彡彳心戈戶手支攴文斗斤方无日曰月木欠止歹殳毋"),
   (0x2F50,"比毛氏气水火爪父爻爿片牙牛犬玄玉瓜瓦甘生用田疋疒癶白皮皿目矛矢石示禸禾穴立竹米糸"),
   (0x2F78,"缶网羊羽老而耒耳聿肉臣自至臼舌舛舟艮色艸虍虫血行衣襾見角言谷豆豕豸貝赤走足身車辛"),
   (0x2FA0,"辰辵邑酉釆里金長門阜隶隹雨靑非面革韋韭音頁風飛食首香馬骨高髟鬥鬯鬲鬼魚鳥鹵鹿麥麻"),
   (0x2FC8,"黃黍黑黹黽鼎鼓鼠鼻齊齒龍龜龠"),(0x3000," "),(0x3002,"."),(0x3036,"〒"),
   (0x3038,"十卄卅"),(0x3131,"ᄀᄁᆪᄂᆬᆭᄃᄄᄅ"),(0x3140,"ᄚᄆᄇᄈᄡ"),
   (0x3165,"ᄔᄕᇇᇈᇌᇎᇓᇗᇙᄜᇝᇟᄝᄞᄠᄢᄣᄧᄩ"),(0x317D,"ᄲᄶᅀᅇᅌᇱᇲᅗᅘᅙᆄᆅᆈᆑᆒᆔᆞᆡ"),
   (0x3192,"一二三四上中下甲乙丙丁天地人"),(0x3244,"問幼文箏"),(0x3260,"ᄀᄂᄃᄅᄆᄇᄉᄋᄌ"),
   (0x326E,"가나다라마바사아자차카타파하"),(0x327E,"우"),
   (0x3280,"一二三四五六七八九十月火水木金土日株有社名特財祝労秘男女適優印注項休写正上中下左"),
   (0x32A8,"右医宗学監企資協夜"),(0x32D0,"アイウエオカキクケコサシスセソタチツテト"),
   (0x32EA,"ヒフヘホ"),(0x32F3,"ヤユ"),(0x32FB,"ワヰヱヲ"),(0xA69C,"ъь"),(0xA770,"ꝯ"),(0xA77D,"ᵹ"),
   (0xA78B,"ꞌ"),(0xA78D,"ɥ"),(0xA7AA,"ɦɜɡɬɪ"),(0xA7B0,"ʞʇʝꭓ"),(0xA7C4,"ꞔʂᶎ"),(0xA7CB,"ɤ"),
   (0xA7DC,"ƛ"),(0xA7F1,"scfqꟶ"),(0xA7F8,"ħœ"),(0xAB5C,"ꜧꬷɫꭒ"),(0xAB69,"ʍ"),
   (0xFB20,"\u05E2\u05D0\u05D3\u05D4\u05DB\u05DC\u05DD\u05E8\u05EA+"),
   (0xFB50,"\u0671\u0671\u067B\u067B\u067B\u067B\u067E\u067E\u067E\u067E\u0680\u0680\u0680\u0680\u067A\u067A\u067A\u067A\u067F\u067F\u067F\u067F\u0679\u0679\u0679\u0679\u06A4\u06A4\u06A4\u06A4\u06A6\u06A6\u06A6\u06A6\u0684\u0684\u0684\u0684\u0683\u0683"),
   (0xFB78,"\u0683\u0683\u0686\u0686\u0686\u0686\u0687\u0687\u0687\u0687\u068D\u068D\u068C\u068C\u068E\u068E\u0688\u0688\u0698\u0698\u0691\u0691\u06A9\u06A9\u06A9\u06A9\u06AF\u06AF\u06AF\u06AF\u06B3\u06B3\u06B3\u06B3\u06B1\u06B1\u06B1\u06B1\u06BA\u06BA"),
   (0xFBA0,"\u06BB\u06BB\u06BB\u06BB\u06C0\u06C0\u06C1\u06C1\u06C1\u06C1\u06BE\u06BE\u06BE\u06BE\u06D2\u06D2\u06D3\u06D3"),
   (0xFBD3,"\u06AD\u06AD\u06AD\u06AD\u06C7\u06C7\u06C6\u06C6\u06C8\u06C8"),
   (0xFBDE,"\u06CB\u06CB\u06C5\u06C5\u06C9\u06C9\u06D0\u06D0\u06D0\u06D0\u0649\u0649"),
   (0xFBFC,"\u06CC\u06CC\u06CC\u06CC"),(0xFE10,",、"),(0xFE13,":;!?〖〗"),
   (0xFE31,"—–__()\x7b\x7d〔〕【】《》〈〉「」『』"),(0xFE47,"[]"),(0xFE4D,"___,、"),
   (0xFE54,";:?!—()\x7b\x7d〔〕#&*+-<>="),(0xFE68,"\\$%@"),
   (0xFE80,"\u0621\u0622\u0622\u0623\u0623\u0624\u0624\u0625\u0625\u0626\u0626\u0626\u0626\u0627\u0627\u0628\u0628\u0628\u0628\u0629\u0629\u062A\u062A\u062A\u062A\u062B\u062B\u062B\u062B\u062C\u062C\u062C\u062C\u062D\u062D\u062D\u062D\u062E\u062E\u062E"),
   (0xFEA8,"\u062E\u062F\u062F\u0630\u0630\u0631\u0631\u0632\u0632\u0633\u0633\u0633\u0633\u0634\u0634\u0634\u0634\u0635\u0635\u0635\u0635\u0636\u0636\u0636\u0636\u0637\u0637\u0637\u0637\u0638\u0638\u0638\u0638\u0639\u0639\u0639\u0639\u063A\u063A\u063A"),
   (0xFED0,"\u063A\u0641\u0641\u0641\u0641\u0642\u0642\u0642\u0642\u0643\u0643\u0643\u0643\u0644\u0644\u0644\u0644\u0645\u0645\u0645\u0645\u0646\u0646\u0646\u0646\u0647\u0647\u0647\u0647\u0648\u0648\u0649\u0649\u064A\u064A\u064A\u064A"),
   (0xFF5F,"⦅⦆.「」、・ヲァィゥェォャュョッーアイウエオカキクケコサシスセソタチツテト"),
   (0xFF8B,"ヒフヘホ"),(0xFF94,"ヤユ"),(0xFF9C,"ワン\u3099\u309A"),(0xFFA1,"ᄀᄁᆪᄂᆬᆭᄃᄄᄅ"),
   (0xFFB0,"ᄚᄆᄇᄈᄡ"),(0xFFDA,"ᅳᅴᅵ"),(0xFFE0,"¢£¬"),(0xFFE4,"¦¥₩"),(0xFFE8,"│←↑→↓■○"),
   (0x10594,"𐖻𐖼"),(0x10781,"ːˑæʙɓ"),(0x10787,"ʣꭦʥʤɖɗᶑɘɞʩɤɢɠʛħʜɧʄʪʫɬ𝼄ꞎɮ𝼅ʎ𝼆øɶɷqɺ𝼈ɽɾʀʨʦꭧʧ"),
   (0x107AF,"ʈⱱ"),(0x107B2,"ʏʡʢʘǀǁǂ𝼊𝼞"),(0x1D49C,"a"),(0x1D49E,"cd"),(0x1D4A2,"g"),(0x1D4A5,"jk"),
   (0x1D4A9,"nopq"),(0x1D4B6,"abcd"),(0x1D4BB,"f"),(0x1D504,"ab"),(0x1D507,"defg"),(0x1D538,"ab"),
   (0x1D53B,"defg"),(0x1D546,"o"),(0x1D6A4,"ıȷ"),(0x1D6B9,"θ"),(0x1D6C1,"∇"),(0x1D6D3,"σ"),
   (0x1D6DB,"∂εθκφρπ"),(0x1D6F3,"θ"),(0x1D6FB,"∇"),(0x1D70D,"σ"),(0x1D715,"∂εθκφρπ"),(0x1D72D,"θ"),
   (0x1D735,"∇"),(0x1D747,"σ"),(0x1D74F,"∂εθκφρπ"),(0x1D767,"θ"),(0x1D76F,"∇"),(0x1D781,"σ"),
   (0x1D789,"∂εθκφρπ"),(0x1D7A1,"θ"),(0x1D7A9,"∇"),(0x1D7BB,"σ"),(0x1D7C3,"∂εθκφρπϝϝ"),
   (0x1E039,"клм"),(0x1E047,"ыэюꚉәіјөүӏ"),(0x1E05A,"клопс"),(0x1E065,"ъыґіѕџҫꙑұ"),
   (0x1EE00,"\u0627\u0628\u062C\u062F"),
   (0x1EE05,"\u0648\u0632\u062D\u0637\u064A\u0643\u0644\u0645\u0646\u0633\u0639\u0641\u0635\u0642\u0631\u0634\u062A\u062B\u062E\u0630\u0636\u0638\u063A\u066E\u06BA\u06A1\u066F"),
   (0x1EE21,"\u0628\u062C"),(0x1EE24,"\u0647"),(0x1EE27,"\u062D"),
   (0x1EE29,"\u064A\u0643\u0644\u0645\u0646\u0633\u0639\u0641\u0635\u0642"),
   (0x1EE34,"\u0634\u062A\u062B\u062E"),(0x1EE39,"\u0636"),(0x1EE3B,"\u063A"),(0x1EE42,"\u062C"),
   (0x1EE47,"\u062D"),(0x1EE49,"\u064A"),(0x1EE4B,"\u0644"),(0x1EE4D,"\u0646\u0633\u0639"),
   (0x1EE51,"\u0635\u0642"),(0x1EE54,"\u0634"),(0x1EE57,"\u062E"),(0x1EE59,"\u0636"),
   (0x1EE5B,"\u063A"),(0x1EE5D,"\u06BA"),(0x1EE5F,"\u066F"),(0x1EE61,"\u0628\u062C"),
   (0x1EE64,"\u0647"),(0x1EE67,"\u062D\u0637\u064A\u0643"),
   (0x1EE6C,"\u0645\u0646\u0633\u0639\u0641\u0635\u0642"),(0x1EE74,"\u0634\u062A\u062B\u062E"),
   (0x1EE79,"\u0636\u0638\u063A\u066E"),(0x1EE7E,"\u06A1"),
   (0x1EE80,"\u0627\u0628\u062C\u062F\u0647\u0648\u0632\u062D\u0637\u064A"),
   (0x1EE8B,"\u0644\u0645\u0646\u0633\u0639\u0641\u0635\u0642\u0631\u0634\u062A\u062B\u062E\u0630\u0636\u0638\u063A"),
   (0x1EEA1,"\u0628\u062C\u062F"),(0x1EEA5,"\u0648\u0632\u062D\u0637\u064A"),
   (0x1EEAB,"\u0644\u0645\u0646\u0633\u0639\u0641\u0635\u0642\u0631\u0634\u062A\u062B\u062E\u0630\u0636\u0638\u063A"),
   (0x1F12B,"cr"),(0x1F202,"サ"),
   (0x1F210,"手字双デ二多解天交映無料前後再新初終生販声吹演投捕一三遊左中右指走打禁空合満有月"),
   (0x1F238,"申割営配"),(0x1F250,"得可")]

/-- Runs of characters that are spelled, from the first one on, each with the next text. -/
def expandedRuns : List (Nat × List String) :=
  [(0xA8,[" \u0308"]),(0xAF,[" \u0304"]),(0xB4,[" \u0301"]),(0xB8,[" \u0327"]),
   (0xBC,["1⁄4","1⁄2","3⁄4"]),(0x130,["i\u0307"]),(0x132,["ij","ij"]),(0x13F,["l·","l·"]),
   (0x149,["ʼn"]),(0x1C4,["dž","dž","dž","lj","lj","lj","nj","nj","nj"]),(0x1F1,["dz","dz","dz"]),
   (0x2D8,[" \u0306"," \u0307"," \u030A"," \u0328"," \u0303"," \u030B"]),(0x37A,[" ι"]),
   (0x384,[" \u0301"," \u0308\u0301"]),(0x587,["եւ"]),
   (0x675,["\u0627\u0674","\u0648\u0674","\u06C7\u0674","\u064A\u0674"]),(0xE33,["\u0E4Dา"]),
   (0xEB3,["\u0ECDາ"]),(0xEDC,["ຫນ","ຫມ"]),(0xF77,["\u0FB2\u0F71\u0F80"]),
   (0xF79,["\u0FB3\u0F71\u0F80"]),(0x1E9A,["aʾ"]),
   (0x1F80,["ἀι","ἁι","ἂι","ἃι","ἄι","ἅι","ἆι","ἇι","ἀι","ἁι","ἂι","ἃι"]),
   (0x1F8C,["ἄι","ἅι","ἆι","ἇι","ἠι","ἡι","ἢι","ἣι","ἤι","ἥι","ἦι","ἧι"]),
   (0x1F98,["ἠι","ἡι","ἢι","ἣι","ἤι","ἥι","ἦι","ἧι","ὠι","ὡι","ὢι","ὣι"]),
   (0x1FA4,["ὤι","ὥι","ὦι","ὧι","ὠι","ὡι","ὢι","ὣι","ὤι","ὥι","ὦι","ὧι"]),(0x1FB2,["ὰι","αι","άι"]),
   (0x1FB7,["ᾶι"]),(0x1FBC,["αι"," \u0313"]),
   (0x1FBF,[" \u0313"," \u0342"," \u0308\u0342","ὴι","ηι","ήι"]),(0x1FC7,["ῆι"]),
   (0x1FCC,["ηι"," \u0313\u0300"," \u0313\u0301"," \u0313\u0342"]),
   (0x1FDD,[" \u0314\u0300"," \u0314\u0301"," \u0314\u0342"]),
   (0x1FED,[" \u0308\u0300"," \u0308\u0301"]),(0x1FF2,["ὼι","ωι","ώι"]),(0x1FF7,["ῶι"]),
   (0x1FFC,["ωι"," \u0301"," \u0314"]),(0x2017,[" \u0333"]),(0x2033,["′′","′′′"]),
   (0x2036,["‵‵","‵‵‵"]),(0x203C,["!!"]),(0x203E,[" \u0305"]),(0x2047,["??","?!","!?"]),
   (0x2057,["′′′′"]),(0x20A8,["rs"]),(0x2100,["a/c","a/s"]),(0x2103,["°c"]),(0x2105,["c/o","c/u"]),
   (0x2109,["°f"]),(0x2116,["no"]),(0x2120,["sm","tel","tm"]),(0x213B,["fax"]),
   (0x2150,["1⁄7","1⁄9","1⁄10","1⁄3","2⁄3","1⁄5","2⁄5","3⁄5","4⁄5","1⁄6","5⁄6","1⁄8"]),
   (0x215C,["3⁄8","5⁄8","7⁄8","1⁄"]),(0x2161,["ii","iii","iv"]),(0x2165,["vi","vii","viii","ix"]),
   (0x216A,["xi","xii"]),(0x2171,["ii","iii","iv"]),(0x2175,["vi","vii","viii","ix"]),
   (0x217A,["xi","xii"]),(0x2189,["0⁄3"]),(0x222C,["∫∫","∫∫∫"]),(0x222F,["∮∮","∮∮∮"]),
   (0x2469,["10","11","12","13","14","15","16","17","18","19","20","(1)"]),
   (0x2475,["(2)","(3)","(4)","(5)","(6)","(7)","(8)","(9)","(10)","(11)","(12)","(13)"]),
   (0x2481,["(14)","(15)","(16)","(17)","(18)","(19)","(20)"]),
   (0x249C,["(a)","(b)","(c)","(d)","(e)","(f)","(g)","(h)","(i)","(j)","(k)","(l)"]),
   (0x24A8,["(m)","(n)","(o)","(p)","(q)","(r)","(s)","(t)","(u)","(v)","(w)","(x)"]),
   (0x24B4,["(y)","(z)"]),(0x2A0C,["∫∫∫∫"]),(0x2A74,["::=","==","==="]),
   (0x309B,[" \u3099"," \u309A"]),(0x309F,["より"]),(0x30FF,["コト"]),
   (0x3200,["(ᄀ)","(ᄂ)","(ᄃ)","(ᄅ)","(ᄆ)","(ᄇ)","(ᄉ)","(ᄋ)","(ᄌ)","(ᄎ)","(ᄏ)","(ᄐ)"]),
   (0x320C,["(ᄑ)","(ᄒ)","(가)","(나)","(다)","(라)","(마)","(바)","(사)","(아)","(자)","(차)"]),
   (0x3218,["(카)","(타)","(파)","(하)","(주)","(오전)","(오후)"]),
   (0x3220,["(一)","(二)","(三)","(四)","(五)","(六)","(七)","(八)","(九)","(十)","(月)","(火)"]),
   (0x322C,["(水)","(木)","(金)","(土)","(日)","(株)","(有)","(社)","(名)","(特)","(財)","(祝)"]),
   (0x3238,["(労)","(代)","(呼)","(学)","(監)","(企)","(資)","(協)","(祭)","(休)","(自)","(至)"]),
   (0x3250,["pte","21","22","23","24","25","26","27","28","29","30","31"]),
   (0x325C,["32","33","34","35"]),(0x327C,["참고","주의"]),
   (0x32B1,["36","37","38","39","40","41","42","43","44","45","46","47"]),
   (0x32BD,["48","49","50","1月","2月","3月","4月","5月","6月","7月","8月","9月"]),
   (0x32C9,["10月","11月","12月","hg","erg","ev","ltd"]),
   (0x32FF,["令和","アパート","アルファ","アンペア","アール","イニング","インチ","ウォン","エスクード","エーカー","オンス","オーム"]),
   (0x330B,["カイリ","カラット","カロリー","ガロン","ガンマ","ギガ","ギニー","キュリー","ギルダー","キロ","キログラム","キロメートル"]),
   (0x3317,["キロワット","グラム","グラムトン","クルゼイロ","クローネ","ケース","コルナ","コーポ","サイクル","サンチーム","シリング","センチ"]),
   (0x3323,["セント","ダース","デシ","ドル","トン","ナノ","ノット","ハイツ","パーセント","パーツ","バーレル","ピアストル"]),
   (0x332F,["ピクル","ピコ","ビル","ファラッド","フィート","ブッシェル","フラン","ヘクタール","ペソ","ペニヒ","ヘルツ","ペンス"]),
   (0x333B,["ページ","ベータ","ポイント","ボルト","ホン","ポンド","ホール","ホーン","マイクロ","マイル","マッハ","マルク"]),
   (0x3347,["マンション","ミクロン","ミリ","ミリバール","メガ","メガトン","メートル","ヤード","ヤール","ユアン","リットル","リラ"]),
   (0x3353,["ルピー","ルーブル","レム","レントゲン","ワット","0点","1点","2点","3点","4点","5点","6点"]),
   (0x335F,["7点","8点","9点","10点","11点","12点","13点","14点","15点","16点","17点","18点"]),
   (0x336B,["19点","20点","21点","22点","23点","24点","hpa","da","au","bar","ov","pc"]),
   (0x3377,["dm","dm2","dm3","iu","平成","昭和","大正","明治","株式会社","pa","na","μa"]),
   (0x3383,["ma","ka","kb","mb","gb","cal","kcal","pf","nf","μf","μg","mg"]),
   (0x338F,["kg","hz","khz","mhz","ghz","thz","μl","ml","dl","kl","fm","nm"]),
   (0x339B,["μm","mm","cm","km","mm2","cm2","m2","km2","mm3","cm3","m3","km3"]),
   (0x33A7,["m∕s","m∕s2","pa","kpa","mpa","gpa","rad","rad∕s","rad∕s2","ps","ns","μs"]),
   (0x33B3,["ms","pv","nv","μv","mv","kv","mv","pw","nw","μw","mw","kw"]),(0x33BF,["mw","kω","mω"]),
   (0x33C3,["bq","cc","cd","c∕kg"]),
   (0x33C8,["db","gy","ha","hp","in","kk","km","kt","lm","ln","log","lx"]),
   (0x33D4,["mb","mil","mol","ph"]),
   (0x33D9,["ppm","pr","sr","sv","wb","v∕m","a∕m","1日","2日","3日","4日","5日"]),
   (0x33E5,["6日","7日","8日","9日","10日","11日","12日","13日","14日","15日","16日","17日"]),
   (0x33F1,["18日","19日","20日","21日","22日","23日","24日","25日","26日","27日","28日","29日"]),
   (0x33FD,["30日","31日","gal"]),(0xFB00,["ff","fi","fl","ffi","ffl","st","st"]),
   (0xFB13,["մն","մե","մի","վն","մխ"]),(0xFB4F,["\u05D0\u05DC"]),(0xFBDD,["\u06C7\u0674"]),
   (0xFBEA,["\u0626\u0627","\u0626\u0627","\u0626\u06D5","\u0626\u06D5","\u0626\u0648",
     "\u0626\u0648","\u0626\u06C7","\u0626\u06C7","\u0626\u06C6","\u0626\u06C6","\u0626\u06C8",
     "\u0626\u06C8"]),
   (0xFBF6,["\u0626\u06D0","\u0626\u06D0","\u0626\u06D0","\u0626\u0649","\u0626\u0649",
     "\u0626\u0649"]),
   (0xFC00,["\u0626\u062C","\u0626\u062D","\u0626\u0645","\u0626\u0649","\u0626\u064A",
     "\u0628\u062C","\u0628\u062D","\u0628\u062E","\u0628\u0645","\u0628\u0649","\u0628\u064A",
     "\u062A\u062C"]),
   (0xFC0C,["\u062A\u062D","\u062A\u062E","\u062A\u0645","\u062A\u0649","\u062A\u064A",
     "\u062B\u062C","\u062B\u0645","\u062B\u0649","\u062B\u064A","\u062C\u062D","\u062C\u0645",
     "\u062D\u062C"]),
   (0xFC18,["\u062D\u0645","\u062E\u062C","\u062E\u062D","\u062E\u0645","\u0633\u062C",
     "\u0633\u062D","\u0633\u062E","\u0633\u0645","\u0635\u062D","\u0635\u0645","\u0636\u062C",
     "\u0636\u062D"]),
   (0xFC24,["\u0636\u062E","\u0636\u0645","\u0637\u062D","\u0637\u0645","\u0638\u0645",
     "\u0639\u062C","\u0639\u0645","\u063A\u062C","\u063A\u0645","\u0641\u062C","\u0641\u062D",
     "\u0641\u062E"]),
   (0xFC30,["\u0641\u0645","\u0641\u0649","\u0641\u064A","\u0642\u062D","\u0642\u0645",
     "\u0642\u0649","\u0642\u064A","\u0643\u0627","\u0643\u062C","\u0643\u062D","\u0643\u062E",
     "\u0643\u0644"]),
   (0xFC3C,["\u0643\u0645","\u0643\u0649","\u0643\u064A","\u0644\u062C","\u0644\u062D",
     "\u0644\u062E","\u0644\u0645","\u0644\u0649","\u0644\u064A","\u0645\u062C","\u0645\u062D",
     "\u0645\u062E"]),
   (0xFC48,["\u0645\u0645","\u0645\u0649","\u0645\u064A","\u0646\u062C","\u0646\u062D",
     "\u0646\u062E","\u0646\u0645","\u0646\u0649","\u0646\u064A","\u0647\u062C","\u0647\u0645",
     "\u0647\u0649"]),
   (0xFC54,["\u0647\u064A","\u064A\u062C","\u064A\u062D","\u064A\u062E","\u064A\u0645",
     "\u064A\u0649","\u064A\u064A","\u0630\u0670","\u0631\u0670","\u0649\u0670"," \u064C\u0651",
     " \u064D\u0651"]),
   (0xFC60,[" \u064E\u0651"," \u064F\u0651"," \u0650\u0651"," \u0651\u0670","\u0626\u0631",
     "\u0626\u0632","\u0626\u0645","\u0626\u0646","\u0626\u0649","\u0626\u064A","\u0628\u0631",
     "\u0628\u0632"]),
   (0xFC6C,["\u0628\u0645","\u0628\u0646","\u0628\u0649","\u0628\u064A","\u062A\u0631",
     "\u062A\u0632","\u062A\u0645","\u062A\u0646","\u062A\u0649","\u062A\u064A","\u062B\u0631",
     "\u062B\u0632"]),
   (0xFC78,["\u062B\u0645","\u062B\u0646","\u062B\u0649","\u062B\u064A","\u0641\u0649",
     "\u0641\u064A","\u0642\u0649","\u0642\u064A","\u0643\u0627","\u0643\u0644","\u0643\u0645",
     "\u0643\u0649"]),
   (0xFC84,["\u0643\u064A","\u0644\u0645","\u0644\u0649","\u0644\u064A","\u0645\u0627",
     "\u0645\u0645","\u0646\u0631","\u0646\u0632","\u0646\u0645","\u0646\u0646","\u0646\u0649",
     "\u0646\u064A"]),
   (0xFC90,["\u0649\u0670","\u064A\u0631","\u064A\u0632","\u064A\u0645","\u064A\u0646",
     "\u064A\u0649","\u064A\u064A","\u0626\u062C","\u0626\u062D","\u0626\u062E","\u0626\u0645",
     "\u0626\u0647"]),
   (0xFC9C,["\u0628\u062C","\u0628\u062D","\u0628\u062E","\u0628\u0645","\u0628\u0647",
     "\u062A\u062C","\u062A\u062D","\u062A\u062E","\u062A\u0645","\u062A\u0647","\u062B\u0645",
     "\u062C\u062D"]),
   (0xFCA8,["\u062C\u0645","\u062D\u062C","\u062D\u0645","\u062E\u062C","\u062E\u0645",
     "\u0633\u062C","\u0633\u062D","\u0633\u062E","\u0633\u0645","\u0635\u062D","\u0635\u062E",
     "\u0635\u0645"]),
   (0xFCB4,["\u0636\u062C","\u0636\u062D","\u0636\u062E","\u0636\u0645","\u0637\u062D",
     "\u0638\u0645","\u0639\u062C","\u0639\u0645","\u063A\u062C","\u063A\u0645","\u0641\u062C",
     "\u0641\u062D"]),
   (0xFCC0,["\u0641\u062E","\u0641\u0645","\u0642\u062D","\u0642\u0645","\u0643\u062C",
     "\u0643\u062D","\u0643\u062E","\u0643\u0644","\u0643\u0645","\u0644\u062C","\u0644\u062D",
     "\u0644\u062E"]),
   (0xFCCC,["\u0644\u0645","\u0644\u0647","\u0645\u062C","\u0645\u062D","\u0645\u062E",
     "\u0645\u0645","\u0646\u062C","\u0646\u062D","\u0646\u062E","\u0646\u0645","\u0646\u0647",
     "\u0647\u062C"]),
   (0xFCD8,["\u0647\u0645","\u0647\u0670","\u064A\u062C","\u064A\u062D","\u064A\u062E",
     "\u064A\u0645","\u064A\u0647","\u0626\u0645","\u0626\u0647","\u0628\u0645","\u0628\u0647",
     "\u062A\u0645"]),
   (0xFCE4,["\u062A\u0647","\u062B\u0645","\u062B\u0647","\u0633\u0645","\u0633\u0647",
     "\u0634\u0645","\u0634\u0647","\u0643\u0644","\u0643\u0645","\u0644\u0645","\u0646\u0645",
     "\u0646\u0647"]),
   (0xFCF0,["\u064A\u0645","\u064A\u0647","\u0640\u064E\u0651","\u0640\u064F\u0651",
     "\u0640\u0650\u0651","\u0637\u0649","\u0637\u064A","\u0639\u0649","\u0639\u064A",
     "\u063A\u0649","\u063A\u064A","\u0633\u0649"]),
   (0xFCFC,["\u0633\u064A","\u0634\u0649","\u0634\u064A","\u062D\u0649","\u062D\u064A",
     "\u062C\u0649","\u062C\u064A","\u062E\u0649","\u062E\u064A","\u0635\u0649","\u0635\u064A",
     "\u0636\u0649"]),
   (0xFD08,["\u0636\u064A","\u0634\u062C","\u0634\u062D","\u0634\u062E","\u0634\u0645",
     "\u0634\u0631","\u0633\u0631","\u0635\u0631","\u0636\u0631","\u0637\u0649","\u0637\u064A",
     "\u0639\u0649"]),
   (0xFD14,["\u0639\u064A","\u063A\u0649","\u063A\u064A","\u0633\u0649","\u0633\u064A",
     "\u0634\u0649","\u0634\u064A","\u062D\u0649","\u062D\u064A","\u062C\u0649","\u062C\u064A",
     "\u062E\u0649"]),
   (0xFD20,["\u062E\u064A","\u0635\u0649","\u0635\u064A","\u0636\u0649","\u0636\u064A",
     "\u0634\u062C","\u0634\u062D","\u0634\u062E","\u0634\u0645","\u0634\u0631","\u0633\u0631",
     "\u0635\u0631"]),
   (0xFD2C,["\u0636\u0631","\u0634\u062C","\u0634\u062D","\u0634\u062E","\u0634\u0645",
     "\u0633\u0647","\u0634\u0647","\u0637\u0645","\u0633\u062C","\u0633\u062D","\u0633\u062E",
     "\u0634\u062C"]),
   (0xFD38,["\u0634\u062D","\u0634\u062E","\u0637\u0645","\u0638\u0645","\u0627\u064B",
     "\u0627\u064B"]),
   (0xFD50,["\u062A\u062C\u0645","\u062A\u062D\u062C","\u062A\u062D\u062C","\u062A\u062D\u0645",
     "\u062A\u062E\u0645","\u062A\u0645\u062C","\u062A\u0645\u062D","\u062A\u0645\u062E",
     "\u062C\u0645\u062D","\u062C\u0645\u062D","\u062D\u0645\u064A","\u062D\u0645\u0649"]),
   (0xFD5C,["\u0633\u062D\u062C","\u0633\u062C\u062D","\u0633\u062C\u0649","\u0633\u0645\u062D",
     "\u0633\u0645\u062D","\u0633\u0645\u062C","\u0633\u0645\u0645","\u0633\u0645\u0645",
     "\u0635\u062D\u062D","\u0635\u062D\u062D","\u0635\u0645\u0645","\u0634\u062D\u0645"]),
   (0xFD68,["\u0634\u062D\u0645","\u0634\u062C\u064A","\u0634\u0645\u062E","\u0634\u0645\u062E",
     "\u0634\u0645\u0645","\u0634\u0645\u0645","\u0636\u062D\u0649","\u0636\u062E\u0645",
     "\u0636\u062E\u0645","\u0637\u0645\u062D","\u0637\u0645\u062D","\u0637\u0645\u0645"]),
   (0xFD74,["\u0637\u0645\u064A","\u0639\u062C\u0645","\u0639\u0645\u0645","\u0639\u0645\u0645",
     "\u0639\u0645\u0649","\u063A\u0645\u0645","\u063A\u0645\u064A","\u063A\u0645\u0649",
     "\u0641\u062E\u0645","\u0641\u062E\u0645","\u0642\u0645\u062D","\u0642\u0645\u0645"]),
   (0xFD80,["\u0644\u062D\u0645","\u0644\u062D\u064A","\u0644\u062D\u0649","\u0644\u062C\u062C",
     "\u0644\u062C\u062C","\u0644\u062E\u0645","\u0644\u062E\u0645","\u0644\u0645\u062D",
     "\u0644\u0645\u062D","\u0645\u062D\u062C","\u0645\u062D\u0645","\u0645\u062D\u064A"]),
   (0xFD8C,["\u0645\u062C\u062D","\u0645\u062C\u0645","\u0645\u062E\u062C","\u0645\u062E\u0645"]),
   (0xFD92,["\u0645\u062C\u062E","\u0647\u0645\u062C","\u0647\u0645\u0645","\u0646\u062D\u0645",
     "\u0646\u062D\u0649","\u0646\u062C\u0645","\u0646\u062C\u0645","\u0646\u062C\u0649",
     "\u0646\u0645\u064A","\u0646\u0645\u0649","\u064A\u0645\u0645","\u064A\u0645\u0645"]),
   (0xFD9E,["\u0628\u062E\u064A","\u062A\u062C\u064A","\u062A\u062C\u0649","\u062A\u062E\u064A",
     "\u062A\u062E\u0649","\u062A\u0645\u064A","\u062A\u0645\u0649","\u062C\u0645\u064A",
     "\u062C\u062D\u0649","\u062C\u0645\u0649","\u0633\u062E\u0649","\u0635\u062D\u064A"]),
   (0xFDAA,["\u0634\u062D\u064A","\u0636\u062D\u064A","\u0644\u062C\u064A","\u0644\u0645\u064A",
     "\u064A\u062D\u064A","\u064A\u062C\u064A","\u064A\u0645\u064A","\u0645\u0645\u064A",
     "\u0642\u0645\u064A","\u0646\u062D\u064A","\u0642\u0645\u062D","\u0644\u062D\u0645"]),
   (0xFDB6,["\u0639\u0645\u064A","\u0643\u0645\u064A","\u0646\u062C\u062D","\u0645\u062E\u064A",
     "\u0644\u062C\u0645","\u0643\u0645\u0645","\u0644\u062C\u0645","\u0646\u062C\u062D",
     "\u062C\u062D\u064A","\u062D\u062C\u064A","\u0645\u062C\u064A","\u0641\u0645\u064A"]),
   (0xFDC2,["\u0628\u062D\u064A","\u0643\u0645\u0645","\u0639\u062C\u0645","\u0635\u0645\u0645",
     "\u0633\u062E\u064A","\u0646\u062C\u064A"]),
   (0xFDF0,["\u0635\u0644\u06D2","\u0642\u0644\u06D2","\u0627\u0644\u0644\u0647",
     "\u0627\u0643\u0628\u0631","\u0645\u062D\u0645\u062F","\u0635\u0644\u0639\u0645",
     "\u0631\u0633\u0648\u0644","\u0639\u0644\u064A\u0647","\u0648\u0633\u0644\u0645",
     "\u0635\u0644\u0649",
     "\u0635\u0644\u0649 \u0627\u0644\u0644\u0647 \u0639\u0644\u064A\u0647 \u0648\u0633\u0644\u0645",
     "\u062C\u0644 \u062C\u0644\u0627\u0644\u0647"]),
   (0xFDFC,["\u0631\u06CC\u0627\u0644"]),(0xFE49,[" \u0305"," \u0305"," \u0305"," \u0305"]),
   (0xFE70,[" \u064B","\u0640\u064B"," \u064C"]),(0xFE74,[" \u064D"]),
   (0xFE76,[" \u064E","\u0640\u064E"," \u064F","\u0640\u064F"," \u0650","\u0640\u0650"," \u0651",
     "\u0640\u0651"," \u0652","\u0640\u0652"]),
   (0xFEF5,["\u0644\u0622","\u0644\u0622","\u0644\u0623","\u0644\u0623","\u0644\u0625",
     "\u0644\u0625","\u0644\u0627","\u0644\u0627"]),
   (0xFFE3,[" \u0304"]),(0x1F101,["0,","1,","2,","3,","4,","5,","6,","7,","8,","9,"]),
   (0x1F110,["(a)","(b)","(c)","(d)","(e)","(f)","(g)","(h)","(i)","(j)","(k)","(l)"]),
   (0x1F11C,["(m)","(n)","(o)","(p)","(q)","(r)","(s)","(t)","(u)","(v)","(w)","(x)"]),
   (0x1F128,["(y)","(z)","〔s〕"]),(0x1F12D,["cd","wz"]),(0x1F14A,["hv","mv","sd","ss","ppv","wc"]),
   (0x1F16A,["mc","md","mr"]),(0x1F190,["dj"]),(0x1F200,["ほか","ココ"]),
   (0x1F240,["〔本〕","〔三〕","〔二〕","〔安〕","〔点〕","〔打〕","〔盗〕","〔勝〕","〔敗〕"])]

/-- Characters that stay. What the tables above hold is looked up there and may lie in these ranges. -/
def keptRanges : List (Nat × Nat) :=
  [(0x0,0x7F),(0xA1,0x377),(0x37B,0x37E),(0x387,0x387),(0x390,0x390),(0x3AC,0x52F),(0x559,0x58A),
   (0x58D,0x58F),(0x591,0x5C7),(0x5D0,0x5EA),(0x5EF,0x5F4),(0x606,0x61B),(0x61D,0x6DC),
   (0x6DE,0x70D),(0x710,0x74A),(0x74D,0x7B1),(0x7C0,0x7FA),(0x7FD,0x82D),(0x830,0x83E),
   (0x840,0x85B),(0x85E,0x85E),(0x860,0x86A),(0x870,0x88F),(0x897,0x8E1),(0x8E3,0x983),
   (0x985,0x98C),(0x98F,0x990),(0x993,0x9A8),(0x9AA,0x9B0),(0x9B2,0x9B2),(0x9B6,0x9B9),
   (0x9BC,0x9C4),(0x9C7,0x9C8),(0x9CB,0x9CE),(0x9D7,0x9D7),(0x9DC,0x9DD),(0x9DF,0x9E3),
   (0x9E6,0x9FE),(0xA01,0xA03),(0xA05,0xA0A),(0xA0F,0xA10),(0xA13,0xA28),(0xA2A,0xA30),
   (0xA32,0xA33),(0xA35,0xA36),(0xA38,0xA39),(0xA3C,0xA3C),(0xA3E,0xA42),(0xA47,0xA48),
   (0xA4B,0xA4D),(0xA51,0xA51),(0xA59,0xA5C),(0xA5E,0xA5E),(0xA66,0xA76),(0xA81,0xA83),
   (0xA85,0xA8D),(0xA8F,0xA91),(0xA93,0xAA8),(0xAAA,0xAB0),(0xAB2,0xAB3),(0xAB5,0xAB9),
   (0xABC,0xAC5),(0xAC7,0xAC9),(0xACB,0xACD),(0xAD0,0xAD0),(0xAE0,0xAE3),(0xAE6,0xAF1),
   (0xAF9,0xAFF),(0xB01,0xB03),(0xB05,0xB0C),(0xB0F,0xB10),(0xB13,0xB28),(0xB2A,0xB30),
   (0xB32,0xB33),(0xB35,0xB39),(0xB3C,0xB44),(0xB47,0xB48),(0xB4B,0xB4D),(0xB55,0xB57),
   (0xB5C,0xB5D),(0xB5F,0xB63),(0xB66,0xB77),(0xB82,0xB83),(0xB85,0xB8A),(0xB8E,0xB90),
   (0xB92,0xB95),(0xB99,0xB9A),(0xB9C,0xB9C),(0xB9E,0xB9F),(0xBA3,0xBA4),(0xBA8,0xBAA),
   (0xBAE,0xBB9),(0xBBE,0xBC2),(0xBC6,0xBC8),(0xBCA,0xBCD),(0xBD0,0xBD0),(0xBD7,0xBD7),
   (0xBE6,0xBFA),(0xC00,0xC0C),(0xC0E,0xC10),(0xC12,0xC28),(0xC2A,0xC39),(0xC3C,0xC44),
   (0xC46,0xC48),(0xC4A,0xC4D),(0xC55,0xC56),(0xC58,0xC5A),(0xC5C,0xC5D),(0xC60,0xC63),
   (0xC66,0xC6F),(0xC77,0xC8C),(0xC8E,0xC90),(0xC92,0xCA8),(0xCAA,0xCB3),(0xCB5,0xCB9),
   (0xCBC,0xCC4),(0xCC6,0xCC8),(0xCCA,0xCCD),(0xCD5,0xCD6),(0xCDC,0xCDE),(0xCE0,0xCE3),
   (0xCE6,0xCEF),(0xCF1,0xCF3),(0xD00,0xD0C),(0xD0E,0xD10),(0xD12,0xD44),(0xD46,0xD48),
   (0xD4A,0xD4F),(0xD54,0xD63),(0xD66,0xD7F),(0xD81,0xD83),(0xD85,0xD96),(0xD9A,0xDB1),
   (0xDB3,0xDBB),(0xDBD,0xDBD),(0xDC0,0xDC6),(0xDCA,0xDCA),(0xDCF,0xDD4),(0xDD6,0xDD6),
   (0xDD8,0xDDF),(0xDE6,0xDEF),(0xDF2,0xDF4),(0xE01,0xE3A),(0xE3F,0xE5B),(0xE81,0xE82),
   (0xE84,0xE84),(0xE86,0xE8A),(0xE8C,0xEA3),(0xEA5,0xEA5),(0xEA7,0xEBD),(0xEC0,0xEC4),
   (0xEC6,0xEC6),(0xEC8,0xECE),(0xED0,0xED9),(0xEDE,0xEDF),(0xF00,0xF47),(0xF49,0xF6C),
   (0xF71,0xF97),(0xF99,0xFBC),(0xFBE,0xFCC),(0xFCE,0xFDA),(0x1000,0x109F),(0x10D0,0x1248),
   (0x124A,0x124D),(0x1250,0x1256),(0x1258,0x1258),(0x125A,0x125D),(0x1260,0x1288),(0x128A,0x128D),
   (0x1290,0x12B0),(0x12B2,0x12B5),(0x12B8,0x12BE),(0x12C0,0x12C0),(0x12C2,0x12C5),(0x12C8,0x12D6),
   (0x12D8,0x1310),(0x1312,0x1315),(0x1318,0x135A),(0x135D,0x137C),(0x1380,0x1399),(0x13A0,0x13F5),
   (0x1400,0x167F),(0x1681,0x169C),(0x16A0,0x16F8),(0x1700,0x1715),(0x171F,0x1736),(0x1740,0x1753),
   (0x1760,0x176C),(0x176E,0x1770),(0x1772,0x1773),(0x1780,0x17DD),(0x17E0,0x17E9),(0x17F0,0x17F9),
   (0x1800,0x1819),(0x1820,0x1878),(0x1880,0x18AA),(0x18B0,0x18F5),(0x1900,0x191E),(0x1920,0x192B),
   (0x1930,0x193B),(0x1940,0x1940),(0x1944,0x196D),(0x1970,0x1974),(0x1980,0x19AB),(0x19B0,0x19C9),
   (0x19D0,0x19DA),(0x19DE,0x1A1B),(0x1A1E,0x1A5E),(0x1A60,0x1A7C),(0x1A7F,0x1A89),(0x1A90,0x1A99),
   (0x1AA0,0x1AAD),(0x1AB0,0x1ADD),(0x1AE0,0x1AEB),(0x1B00,0x1B4C),(0x1B4E,0x1BF3),(0x1BFC,0x1C37),
   (0x1C3B,0x1C49),(0x1C4D,0x1C8A),(0x1CC0,0x1CC7),(0x1CD0,0x1CFA),(0x1D00,0x1F15),(0x1F20,0x1F45),
   (0x1F50,0x1F57),(0x1F60,0x1F7D),(0x1FB0,0x1FB1),(0x1FB6,0x1FBE),(0x1FC6,0x1FD3),(0x1FD6,0x1FD7),
   (0x1FE0,0x1FEF),(0x1FF6,0x1FF6),(0x200C,0x200D),(0x2010,0x2023),(0x2027,0x2027),(0x2030,0x205E),
   (0x20A0,0x20C1),(0x20D0,0x20F0),(0x2104,0x218B),(0x2190,0x2429),(0x2440,0x244A),(0x24EB,0x2B73),
   (0x2B76,0x2CF3),(0x2CF9,0x2D25),(0x2D27,0x2D27),(0x2D2D,0x2D2D),(0x2D30,0x2D67),(0x2D70,0x2D70),
   (0x2D7F,0x2D96),(0x2DA0,0x2DA6),(0x2DA8,0x2DAE),(0x2DB0,0x2DB6),(0x2DB8,0x2DBE),(0x2DC0,0x2DC6),
   (0x2DC8,0x2DCE),(0x2DD0,0x2DD6),(0x2DD8,0x2DDE),(0x2DE0,0x2E5D),(0x2E80,0x2E99),(0x2E9B,0x2EF2),
   (0x3001,0x303F),(0x3041,0x3096),(0x3099,0x30FE),(0x3105,0x312F),(0x3190,0x31E5),(0x31F0,0x31FF),
   (0x3248,0x327F),(0x3400,0xA48C),(0xA490,0xA4C6),(0xA4D0,0xA62B),(0xA641,0xA6F7),(0xA700,0xA7DB),
   (0xA7F6,0xA82C),(0xA830,0xA839),(0xA840,0xA877),(0xA880,0xA8C5),(0xA8CE,0xA8D9),(0xA8E0,0xA953),
   (0xA95F,0xA97C),(0xA980,0xA9CD),(0xA9CF,0xA9D9),(0xA9DE,0xA9FE),(0xAA00,0xAA36),(0xAA40,0xAA4D),
   (0xAA50,0xAA59),(0xAA5C,0xAAC2),(0xAADB,0xAAF6),(0xAB01,0xAB06),(0xAB09,0xAB0E),(0xAB11,0xAB16),
   (0xAB20,0xAB26),(0xAB28,0xAB2E),(0xAB30,0xAB6B),(0xABC0,0xABED),(0xABF0,0xABF9),(0xAC00,0xD7A3),
   (0xD7B0,0xD7C6),(0xD7CB,0xD7FB),(0xF900,0xFA6D),(0xFA70,0xFAD9),(0xFB1D,0xFB36),(0xFB38,0xFB3C),
   (0xFB3E,0xFB3E),(0xFB40,0xFB41),(0xFB43,0xFB44),(0xFB46,0xFDCF),(0xFDFD,0xFDFF),(0xFE20,0xFE2F),
   (0xFE45,0xFE46),(0xFE73,0xFE73),(0x10000,0x1000B),(0x1000D,0x10026),(0x10028,0x1003A),
   (0x1003C,0x1003D),(0x1003F,0x1004D),(0x10050,0x1005D),(0x10080,0x100FA),(0x10100,0x10102),
   (0x10107,0x10133),(0x10137,0x1018E),(0x10190,0x1019C),(0x101A0,0x101A0),(0x101D0,0x101FD),
   (0x10280,0x1029C),(0x102A0,0x102D0),(0x102E0,0x102FB),(0x10300,0x10323),(0x1032D,0x1034A),
   (0x10350,0x1037A),(0x10380,0x1039D),(0x1039F,0x103C3),(0x103C8,0x103D5),(0x10428,0x1049D),
   (0x104A0,0x104A9),(0x104D8,0x104FB),(0x10500,0x10527),(0x10530,0x10563),(0x1056F,0x1056F),
   (0x10597,0x105A1),(0x105A3,0x105B1),(0x105B3,0x105B9),(0x105BB,0x105BC),(0x105C0,0x105F3),
   (0x10600,0x10736),(0x10740,0x10755),(0x10760,0x10767),(0x10780,0x10780),(0x10800,0x10805),
   (0x10808,0x10808),(0x1080A,0x10835),(0x10837,0x10838),(0x1083C,0x1083C),(0x1083F,0x10855),
   (0x10857,0x1089E),(0x108A7,0x108AF),(0x108E0,0x108F2),(0x108F4,0x108F5),(0x108FB,0x1091B),
   (0x1091F,0x10939),(0x1093F,0x10959),(0x10980,0x109B7),(0x109BC,0x109CF),(0x109D2,0x10A03),
   (0x10A05,0x10A06),(0x10A0C,0x10A13),(0x10A15,0x10A17),(0x10A19,0x10A35),(0x10A38,0x10A3A),
   (0x10A3F,0x10A48),(0x10A50,0x10A58),(0x10A60,0x10A9F),(0x10AC0,0x10AE6),(0x10AEB,0x10AF6),
   (0x10B00,0x10B35),(0x10B39,0x10B55),(0x10B58,0x10B72),(0x10B78,0x10B91),(0x10B99,0x10B9C),
   (0x10BA9,0x10BAF),(0x10C00,0x10C48),(0x10CC0,0x10CF2),(0x10CFA,0x10D27),(0x10D30,0x10D39),
   (0x10D40,0x10D4F),(0x10D69,0x10D85),(0x10D8E,0x10D8F),(0x10E60,0x10E7E),(0x10E80,0x10EA9),
   (0x10EAB,0x10EAD),(0x10EB0,0x10EB1),(0x10EC2,0x10EC7),(0x10ED0,0x10ED8),(0x10EFA,0x10F27),
   (0x10F30,0x10F59),(0x10F70,0x10F89),(0x10FB0,0x10FCB),(0x10FE0,0x10FF6),(0x11000,0x1104D),
   (0x11052,0x11075),(0x1107F,0x110BC),(0x110BE,0x110C2),(0x110D0,0x110E8),(0x110F0,0x110F9),
   (0x11100,0x11134),(0x11136,0x11147),(0x11150,0x11176),(0x11180,0x111DF),(0x111E1,0x111F4),
   (0x11200,0x11211),(0x11213,0x11241),(0x11280,0x11286),(0x11288,0x11288),(0x1128A,0x1128D),
   (0x1128F,0x1129D),(0x1129F,0x112A9),(0x112B0,0x112EA),(0x112F0,0x112F9),(0x11300,0x11303),
   (0x11305,0x1130C),(0x1130F,0x11310),(0x11313,0x11328),(0x1132A,0x11330),(0x11332,0x11333),
   (0x11335,0x11339),(0x1133B,0x11344),(0x11347,0x11348),(0x1134B,0x1134D),(0x11350,0x11350),
   (0x11357,0x11357),(0x1135D,0x11363),(0x11366,0x1136C),(0x11370,0x11374),(0x11380,0x11389),
   (0x1138B,0x1138B),(0x1138E,0x1138E),(0x11390,0x113B5),(0x113B7,0x113C0),(0x113C2,0x113C2),
   (0x113C5,0x113C5),(0x113C7,0x113CA),(0x113CC,0x113D5),(0x113D7,0x113D8),(0x113E1,0x113E2),
   (0x11400,0x1145B),(0x1145D,0x11461),(0x11480,0x114C7),(0x114D0,0x114D9),(0x11580,0x115B5),
   (0x115B8,0x115DD),(0x11600,0x11644),(0x11650,0x11659),(0x11660,0x1166C),(0x11680,0x116B9),
   (0x116C0,0x116C9),(0x116D0,0x116E3),(0x11700,0x1171A),(0x1171D,0x1172B),(0x11730,0x11746),
   (0x11800,0x1183B),(0x118C0,0x118F2),(0x118FF,0x11906),(0x11909,0x11909),(0x1190C,0x11913),
   (0x11915,0x11916),(0x11918,0x11935),(0x11937,0x11938),(0x1193B,0x11946),(0x11950,0x11959),
   (0x119A0,0x119A7),(0x119AA,0x119D7),(0x119DA,0x119E4),(0x11A00,0x11A47),(0x11A50,0x11AA2),
   (0x11AB0,0x11AF8),(0x11B00,0x11B09),(0x11B60,0x11B67),(0x11BC0,0x11BE1),(0x11BF0,0x11BF9),
   (0x11C00,0x11C08),(0x11C0A,0x11C36),(0x11C38,0x11C45),(0x11C50,0x11C6C),(0x11C70,0x11C8F),
   (0x11C92,0x11CA7),(0x11CA9,0x11CB6),(0x11D00,0x11D06),(0x11D08,0x11D09),(0x11D0B,0x11D36),
   (0x11D3A,0x11D3A),(0x11D3C,0x11D3D),(0x11D3F,0x11D47),(0x11D50,0x11D59),(0x11D60,0x11D65),
   (0x11D67,0x11D68),(0x11D6A,0x11D8E),(0x11D90,0x11D91),(0x11D93,0x11D98),(0x11DA0,0x11DA9),
   (0x11DB0,0x11DDB),(0x11DE0,0x11DE9),(0x11EE0,0x11EF8),(0x11F00,0x11F10),(0x11F12,0x11F3A),
   (0x11F3E,0x11F5A),(0x11FB0,0x11FB0),(0x11FC0,0x11FF1),(0x11FFF,0x12399),(0x12400,0x1246E),
   (0x12470,0x12474),(0x12480,0x12543),(0x12F90,0x12FF2),(0x13000,0x1342F),(0x13440,0x13455),
   (0x13460,0x143FA),(0x14400,0x14646),(0x16100,0x16139),(0x16800,0x16A38),(0x16A40,0x16A5E),
   (0x16A60,0x16A69),(0x16A6E,0x16ABE),(0x16AC0,0x16AC9),(0x16AD0,0x16AED),(0x16AF0,0x16AF5),
   (0x16B00,0x16B45),(0x16B50,0x16B59),(0x16B5B,0x16B61),(0x16B63,0x16B77),(0x16B7D,0x16B8F),
   (0x16D40,0x16D79),(0x16E60,0x16E9A),(0x16EBB,0x16ED3),(0x16F00,0x16F4A),(0x16F4F,0x16F87),
   (0x16F8F,0x16F9F),(0x16FE0,0x16FE4),(0x16FF0,0x16FF6),(0x17000,0x18CD5),(0x18CFF,0x18D1E),
   (0x18D80,0x18DF2),(0x1AFF0,0x1AFF3),(0x1AFF5,0x1AFFB),(0x1AFFD,0x1AFFE),(0x1B000,0x1B122),
   (0x1B132,0x1B132),(0x1B150,0x1B152),(0x1B155,0x1B155),(0x1B164,0x1B167),(0x1B170,0x1B2FB),
   (0x1BC00,0x1BC6A),(0x1BC70,0x1BC7C),(0x1BC80,0x1BC88),(0x1BC90,0x1BC99),(0x1BC9C,0x1BC9F),
   (0x1CC00,0x1CCFC),(0x1CD00,0x1CEB3),(0x1CEBA,0x1CED0),(0x1CEE0,0x1CEF0),(0x1CF00,0x1CF2D),
   (0x1CF30,0x1CF46),(0x1CF50,0x1CFC3),(0x1D000,0x1D0F5),(0x1D100,0x1D126),(0x1D129,0x1D1EA),
   (0x1D200,0x1D245),(0x1D2C0,0x1D2D3),(0x1D2E0,0x1D2F3),(0x1D300,0x1D356),(0x1D360,0x1D378),
   (0x1D800,0x1DA8B),(0x1DA9B,0x1DA9F),(0x1DAA1,0x1DAAF),(0x1DF00,0x1DF1E),(0x1DF25,0x1DF2A),
   (0x1E000,0x1E006),(0x1E008,0x1E018),(0x1E01B,0x1E021),(0x1E023,0x1E024),(0x1E026,0x1E02A),
   (0x1E08F,0x1E08F),(0x1E100,0x1E12C),(0x1E130,0x1E13D),(0x1E140,0x1E149),(0x1E14E,0x1E14F),
   (0x1E290,0x1E2AE),(0x1E2C0,0x1E2F9),(0x1E2FF,0x1E2FF),(0x1E4D0,0x1E4F9),(0x1E5D0,0x1E5FA),
   (0x1E5FF,0x1E5FF),(0x1E6C0,0x1E6DE),(0x1E6E0,0x1E6F5),(0x1E6FE,0x1E6FF),(0x1E7E0,0x1E7E6),
   (0x1E7E8,0x1E7EB),(0x1E7ED,0x1E7EE),(0x1E7F0,0x1E7FE),(0x1E800,0x1E8C4),(0x1E8C7,0x1E8D6),
   (0x1E922,0x1E94B),(0x1E950,0x1E959),(0x1E95E,0x1E95F),(0x1EC71,0x1ECB4),(0x1ED01,0x1ED3D),
   (0x1EEF0,0x1EEF1),(0x1F000,0x1F02B),(0x1F030,0x1F093),(0x1F0A0,0x1F0AE),(0x1F0B1,0x1F0BF),
   (0x1F0C1,0x1F0CF),(0x1F0D1,0x1F0F5),(0x1F10B,0x1F1AD),(0x1F1E6,0x1F1FF),(0x1F260,0x1F265),
   (0x1F300,0x1F6D8),(0x1F6DC,0x1F6EC),(0x1F6F0,0x1F6FC),(0x1F700,0x1F7D9),(0x1F7E0,0x1F7EB),
   (0x1F7F0,0x1F7F0),(0x1F800,0x1F80B),(0x1F810,0x1F847),(0x1F850,0x1F859),(0x1F860,0x1F887),
   (0x1F890,0x1F8AD),(0x1F8B0,0x1F8BB),(0x1F8C0,0x1F8C1),(0x1F8D0,0x1F8D8),(0x1F900,0x1FA57),
   (0x1FA60,0x1FA6D),(0x1FA70,0x1FA7C),(0x1FA80,0x1FA8A),(0x1FA8E,0x1FAC6),(0x1FAC8,0x1FAC8),
   (0x1FACD,0x1FADC),(0x1FADF,0x1FAEA),(0x1FAEF,0x1FAF8),(0x1FB00,0x1FB92),(0x1FB94,0x1FBFA),
   (0x20000,0x2A6DF),(0x2A700,0x2B81D),(0x2B820,0x2CEAD),(0x2CEB0,0x2EBE0),(0x2EBF0,0x2EE5D),
   (0x2F800,0x2FA1D),(0x30000,0x3134A),(0x31350,0x33479)]

/-- What a character of a name is spelled with, if it may stand in a name. -/
def spelling? (c : Char) : Option (List Char) :=
  let n := c.toNat
  if inRanges droppedRanges n then some []
  else match placeIn? alternatingRanges n, rangeOf? shiftedRanges n with
    | some i, _ => some [if i%2 = 0 then Char.ofNat (n+1) else c]
    | none, some d => some [Char.ofNat (n+d).toNat]
    | none, none =>
      ((itemOf? String.toList respelledRuns n).map fun d => [d]).orElse fun _ =>
        ((itemOf? id expandedRuns n).map String.toList).orElse fun _ =>
          if inRanges keptRanges n then some [c] else none

end CloudMetrics.Url
