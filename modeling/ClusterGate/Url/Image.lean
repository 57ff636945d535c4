import ClusterGate.Text.Fold
import ClusterGate.Text.Printable

/-!
# What characters stand for in names of hosts

In the name of a host many characters stand for others: capitals for small letters, letters in
circles for plain letters, the full stop of another script for a point. Some stand for nothing, and
some may not occur. The tables hold runs of code points with their images, one after the other.
-/

namespace ClusterGate.Url

/-- Runs of characters that stand for one character each. Those that only differ from it in case are
left out. -/
def letterImages : List (Nat × String) :=
  [(0xA0, " "), (0xAA, "a"), (0xB2, "23"), (0xB9, "1o"), (0x02B0, "hɦjrɹɻʁwy"), (0x02E0, "ɣlsxʕ"),
    (0x0340, "\u0300\u0301"), (0x0343, "\u0313"), (0x0374, "ʹ"), (0x037E, ";"), (0x0387, "·"),
    (0x03D2, "υύϋ"), (0x03F2, "σ"), (0x03F9, "σ"), (0x0F0C, "་"), (0x10FC, "ნ"), (0x1D2C, "aæb"),
    (0x1D30, "deǝghijklmn"), (0x1D3C, "oȣprtuwaɐɑᴂbdeəɛɜg"),
    (0x1D4F, "kmŋoɔᴖᴗptuᴝɯvᴥβγδφχiruvβγρφχ"), (0x1D78, "н"),
    (0x1D9B, "ɒcɕðɜfɟɡɥɨɩɪᵻʝɭᶅʟɱɰɲɳɴɵɸʂʃƫʉʊᴜʋʌzʐʑʒθ"), (0x1F71, "ά"), (0x1F73, "έ"), (0x1F75, "ή"),
    (0x1F77, "ί"), (0x1F79, "ό"), (0x1F7B, "ύ"), (0x1F7D, "ώ"), (0x1FBB, "ά"), (0x1FC9, "έ"),
    (0x1FCB, "ή"), (0x1FDB, "ί"), (0x1FEB, "ύ"), (0x1FEF, "\x60"), (0x1FF9, "ό"), (0x1FFB, "ώ"),
    (0x2000, "           "), (0x2011, "‐"), (0x202F, " "), (0x205F, " "), (0x2070, "0i"),
    (0x2074, "456789+−=()n0123456789+−=()"), (0x2090, "aeoxəhklmnpst"), (0x2102, "c"),
    (0x2107, "ɛ"), (0x210A, "ghhhhħiill"), (0x2115, "n"), (0x2119, "pqrrr"), (0x2124, "z"),
    (0x2128, "z"), (0x212C, "bc"), (0x212F, "eef"), (0x2133, "mo\u05D0\u05D1\u05D2\u05D3i"),
    (0x213C, "πγγπ∑"), (0x2145, "ddeij"), (0x2160, "i"), (0x2164, "v"), (0x2169, "x"),
    (0x216C, "lcdmi"), (0x2174, "v"), (0x2179, "x"), (0x217C, "lcdm"), (0x2329, "〈〉"),
    (0x2460, "123456789"), (0x24B6, "abcdefghijklmnopqrstuvwxyzabcdefghijklmnopqrstuvwxyz0"),
    (0x2C7C, "jv"), (0x2D6F, "ⵡ"), (0x2E9F, "母"), (0x2EF3, "龟"),
    (0x2F00, "一丨丶丿乙亅二亠人儿入八冂冖冫几凵刀力勹匕匚匸十卜卩厂厶又口囗土士夂夊夕大女子宀寸小尢尸屮山巛工己巾干幺广廴廾弋弓彐彡彳心戈戶手"),
    (0x2F40, "支攴文斗斤方无日曰月木欠止歹殳毋比毛氏气水火爪父爻爿片牙牛犬玄玉瓜瓦甘生用田疋疒癶白皮皿目矛矢石示禸禾穴立竹米糸缶网羊羽老而耒耳"),
    (0x2F80, "聿肉臣自至臼舌舛舟艮色艸虍虫血行衣襾見角言谷豆豕豸貝赤走足身車辛辰辵邑酉釆里金長門阜隶隹雨靑非面革韋韭音頁風飛食首香馬骨高髟鬥鬯"),
    (0x2FC0, "鬲鬼魚鳥鹵鹿麥麻黃黍黑黹黽鼎鼓鼠鼻齊齒龍龜龠"), (0x3000, " "), (0x3002, "."), (0x3036, "〒"),
    (0x3038, "十卄卅"), (0x3131, "ᄀᄁᆪᄂᆬᆭᄃᄄᄅᆰᆱᆲᆳᆴᆵᄚᄆᄇᄈᄡᄉᄊᄋᄌᄍᄎᄏᄐᄑ하ᅢᅣᅤᅥᅦᅧᅨᅩᅪᅫᅬᅭᅮᅯᅰᅱᅲᅳᅴᅵ"),
    (0x3165, "ᄔᄕᇇᇈᇌᇎᇓᇗᇙᄜᇝᇟᄝᄞᄠᄢᄣᄧᄩᄫᄬᄭᄮᄯᄲᄶᅀᅇᅌᇱᇲᅗᅘᅙᆄᆅᆈᆑᆒᆔᆞᆡ"), (0x3192, "一二三四上中下甲乙丙丁天地人"),
    (0x3244, "問幼文箏"), (0x3260, "ᄀᄂᄃᄅᄆᄇᄉᄋᄌᄎᄏᄐᄑᄒ가나다라마바사아자차카타파하"), (0x327E, "우"),
    (0x3280, "一二三四五六七八九十月火水木金土日株有社名特財祝労秘男女適優印注項休写正上中下左右医宗学監企資協夜"),
    (0x32D0, "アイウエオカキクケコサシスセソタチツテトナニヌネノハヒフヘホマミムメモヤユヨラリルレロワヰヱヲ"), (0xA69C, "ъь"), (0xA770, "ꝯ"),
    (0xA7CE, "꟏"), (0xA7D2, "ꟓ"), (0xA7D4, "ꟕ"), (0xA7F1, "scfq"), (0xA7F8, "ħœ"), (0xAB5C, "ꜧꬷɫꭒ"),
    (0xAB69, "ʍ"), (0xF900, "豈更車賈滑串句龜龜契金喇奈懶癩羅蘿螺裸邏樂洛烙珞落酪駱亂卵欄爛蘭鸞嵐濫藍襤拉臘蠟廊朗浪狼郎來冷勞擄櫓爐盧老蘆虜路露魯鷺碌祿綠菉錄"),
    (0xF940, "鹿論壟弄籠聾牢磊賂雷壘屢樓淚漏累縷陋勒肋凜凌稜綾菱陵讀拏樂諾丹寧怒率異北磻便復不泌數索參塞省葉說殺辰沈拾若掠略亮兩凉梁糧良諒量勵"),
    (0xF980, "呂女廬旅濾礪閭驪麗黎力曆歷轢年憐戀撚漣煉璉秊練聯輦蓮連鍊列劣咽烈裂說廉念捻殮簾獵令囹寧嶺怜玲瑩羚聆鈴零靈領例禮醴隸惡了僚寮尿料樂"),
    (0xF9C0, "燎療蓼遼龍暈阮劉杻柳流溜琉留硫紐類六戮陸倫崙淪輪律慄栗率隆利吏履易李梨泥理痢罹裏裡里離匿溺吝燐璘藺隣鱗麟林淋臨立笠粒狀炙識什茶刺"),
    (0xFA00, "切度拓糖宅洞暴輻行降見廓兀嗀"), (0xFA10, "塚"), (0xFA12, "晴"), (0xFA15, "凞猪益礼神祥福靖精羽"), (0xFA20, "蘒"),
    (0xFA22, "諸"), (0xFA25, "逸都"),
    (0xFA2A, "飯飼館鶴郞隷侮僧免勉勤卑喝嘆器塀墨層屮悔慨憎懲敏既暑梅海渚漢煮爫琢碑社祉祈祐祖祝禍禎穀突節練縉繁署者臭艹艹著褐視謁謹賓贈辶逸難響"), (0xFA6A, "頻恵𤋮舘"),
    (0xFA70, "並况全侀充冀勇勺喝啕喙嗢塚墳奄奔婢嬨廒廙彩徭惘慎愈憎慠懲戴揄搜摒敖晴朗望杖歹殺流滛滋漢瀞煮瞧爵犯猪瑱甆画瘝瘟益盛直睊着磌窱節类絛"),
    (0xFAB0, "練缾者荒華蝹襁覆視調諸請謁諾諭謹變贈輸遲醙鉶陼難靖韛響頋頻鬒龜𢡊𢡄𣏕㮝䀘䀹𥉉𥳐𧻓齃龎"),
    (0xFB20, "\u05E2\u05D0\u05D3\u05D4\u05DB\u05DC\u05DD\u05E8\u05EA+"),
    (0xFB50, "\u0671\u0671\u067B\u067B\u067B\u067B\u067E\u067E\u067E\u067E"),
    (0xFB5A, "\u0680\u0680\u0680\u0680\u067A\u067A\u067A\u067A\u067F\u067F"),
    (0xFB64, "\u067F\u067F\u0679\u0679\u0679\u0679\u06A4\u06A4\u06A4\u06A4"),
    (0xFB6E, "\u06A6\u06A6\u06A6\u06A6\u0684\u0684\u0684\u0684\u0683\u0683"),
    (0xFB78, "\u0683\u0683\u0686\u0686\u0686\u0686\u0687\u0687\u0687\u0687"),
    (0xFB82, "\u068D\u068D\u068C\u068C\u068E\u068E\u0688\u0688\u0698\u0698"),
    (0xFB8C, "\u0691\u0691\u06A9\u06A9\u06A9\u06A9\u06AF\u06AF\u06AF\u06AF"),
    (0xFB96, "\u06B3\u06B3\u06B3\u06B3\u06B1\u06B1\u06B1\u06B1\u06BA\u06BA"),
    (0xFBA0, "\u06BB\u06BB\u06BB\u06BB\u06C0\u06C0\u06C1\u06C1\u06C1\u06C1"),
    (0xFBAA, "\u06BE\u06BE\u06BE\u06BE\u06D2\u06D2\u06D3\u06D3"),
    (0xFBD3, "\u06AD\u06AD\u06AD\u06AD\u06C7\u06C7\u06C6\u06C6\u06C8\u06C8"),
    (0xFBDE, "\u06CB\u06CB\u06C5\u06C5\u06C9\u06C9\u06D0\u06D0\u06D0\u06D0"),
    (0xFBE8, "\u0649\u0649"), (0xFBFC, "\u06CC\u06CC\u06CC\u06CC"), (0xFE10, ",、"),
    (0xFE13, ":;!?〖〗"), (0xFE31, "—–__()\x7b\x7d〔〕【】《》〈〉「」『』"), (0xFE47, "[]"), (0xFE4D, "___,、"),
    (0xFE54, ";:?!—()\x7b\x7d〔〕#&*+-<>="), (0xFE68, "\\$%@"),
    (0xFE80, "\u0621\u0622\u0622\u0623\u0623\u0624\u0624\u0625\u0625\u0626"),
    (0xFE8A, "\u0626\u0626\u0626\u0627\u0627\u0628\u0628\u0628\u0628\u0629"),
    (0xFE94, "\u0629\u062A\u062A\u062A\u062A\u062B\u062B\u062B\u062B\u062C"),
    (0xFE9E, "\u062C\u062C\u062C\u062D\u062D\u062D\u062D\u062E\u062E\u062E"),
    (0xFEA8, "\u062E\u062F\u062F\u0630\u0630\u0631\u0631\u0632\u0632\u0633"),
    (0xFEB2, "\u0633\u0633\u0633\u0634\u0634\u0634\u0634\u0635\u0635\u0635"),
    (0xFEBC, "\u0635\u0636\u0636\u0636\u0636\u0637\u0637\u0637\u0637\u0638"),
    (0xFEC6, "\u0638\u0638\u0638\u0639\u0639\u0639\u0639\u063A\u063A\u063A"),
    (0xFED0, "\u063A\u0641\u0641\u0641\u0641\u0642\u0642\u0642\u0642\u0643"),
    (0xFEDA, "\u0643\u0643\u0643\u0644\u0644\u0644\u0644\u0645\u0645\u0645"),
    (0xFEE4, "\u0645\u0646\u0646\u0646\u0646\u0647\u0647\u0647\u0647\u0648"),
    (0xFEEE, "\u0648\u0649\u0649\u064A\u064A\u064A\u064A"),
    (0xFF01, "!\"#$%&\x27()*+,-./0123456789:;<=>?@abcdefghijklmnopqrstuvwxyz["),
    (0xFF3C, "\\]^_\x60abcdefghijklmnopqrstuvwxyz\x7b|\x7d~⦅⦆.「」、・ヲァィゥェォャュョッーア"),
    (0xFF72, "イウエオカキクケコサシスセソタチツテトナニヌネノハヒフヘホマミムメモヤユヨラリルレロワン\u3099\u309A"),
    (0xFFA1, "ᄀᄁᆪᄂᆬᆭᄃᄄᄅᆰᆱᆲᆳᆴᆵᄚᄆᄇᄈᄡᄉᄊᄋᄌᄍᄎᄏᄐᄑᄒ"), (0xFFC2, "ᅡᅢᅣᅤᅥᅦ"), (0xFFCA, "ᅧᅨᅩᅪᅫᅬ"),
    (0xFFD2, "ᅭᅮᅯᅰᅱᅲ"), (0xFFDA, "ᅳᅴᅵ"), (0xFFE0, "¢£¬"), (0xFFE4, "¦¥₩"), (0xFFE8, "│←↑→↓■○"),
    (0x010781, "ːˑæʙɓ"), (0x010787, "ʣꭦʥʤɖɗᶑɘɞʩɤɢɠʛħʜɧʄʪʫɬ𝼄ꞎɮ𝼅ʎ𝼆øɶɷqɺ𝼈ɽɾʀʨʦꭧʧʈⱱ"),
    (0x0107B2, "ʏʡʢʘǀǁǂ𝼊𝼞"), (0x016EA0, "𖺻𖺼𖺽𖺾𖺿𖻀𖻁𖻂𖻃𖻄𖻅𖻆𖻇𖻈𖻉𖻊𖻋𖻌𖻍𖻎𖻏𖻐𖻑𖻒𖻓"),
    (0x01CCD6, "abcdefghijklmnopqrstuvwxyz0123456789"),
    (0x01D400, "abcdefghijklmnopqrstuvwxyzabcdefghijklmnopqrstuvwxyzabcdefghijkl"),
    (0x01D440, "mnopqrstuvwxyzabcdefg"),
    (0x01D456, "ijklmnopqrstuvwxyzabcdefghijklmnopqrstuvwxyzabcdefghijklmnopqrst"),
    (0x01D496, "uvwxyza"), (0x01D49E, "cd"), (0x01D4A2, "g"), (0x01D4A5, "jk"), (0x01D4A9, "nopq"),
    (0x01D4AE, "stuvwxyzabcd"), (0x01D4BB, "f"), (0x01D4BD, "hijklmn"),
    (0x01D4C5, "pqrstuvwxyzabcdefghijklmnopqrstuvwxyzabcdefghijklmnopqrstuvwxyza"), (0x01D505, "b"),
    (0x01D507, "defg"), (0x01D50D, "jklmnopq"), (0x01D516, "stuvwxy"),
    (0x01D51E, "abcdefghijklmnopqrstuvwxyzab"), (0x01D53B, "defg"), (0x01D540, "ijklm"),
    (0x01D546, "o"), (0x01D54A, "stuvwxy"),
    (0x01D552, "abcdefghijklmnopqrstuvwxyzabcdefghijklmnopqrstuvwxyzabcdefghijkl"),
    (0x01D592, "mnopqrstuvwxyzabcdefghijklmnopqrstuvwxyzabcdefghijklmnopqrstuvwx"),
    (0x01D5D2, "yzabcdefghijklmnopqrstuvwxyzabcdefghijklmnopqrstuvwxyzabcdefghij"),
    (0x01D612, "klmnopqrstuvwxyzabcdefghijklmnopqrstuvwxyzabcdefghijklmnopqrstuv"),
    (0x01D652, "wxyzabcdefghijklmnopqrstuvwxyzabcdefghijklmnopqrstuvwxyzabcdefgh"),
    (0x01D692, "ijklmnopqrstuvwxyzıȷ"),
    (0x01D6A8, "αβγδεζηθικλμνξοπρθστυφχψω∇αβγδεζηθικλμνξοπρσστυφχψω∂εθκφρπαβγδεζ"),
    (0x01D6E8, "ηθικλμνξοπρθστυφχψω∇αβγδεζηθικλμνξοπρσστυφχψω∂εθκφρπαβγδεζηθικλμ"),
    (0x01D728, "νξοπρθστυφχψω∇αβγδεζηθικλμνξοπρσστυφχψω∂εθκφρπαβγδεζηθικλμνξοπρθ"),
    (0x01D768, "στυφχψω∇αβγδεζηθικλμνξοπρσστυφχψω∂εθκφρπαβγδεζηθικλμνξοπρθστυφχψ"),
    (0x01D7A8, "ω∇αβγδεζηθικλμνξοπρσστυφχψω∂εθκφρπϝϝ"),
    (0x01D7CE, "01234567890123456789012345678901234567890123456789"),
    (0x01E030, "абвгдежзиклмопрстуфхцчшыэюꚉәіјөүӏабвгдежзиклопсуфхцчшъыґіѕџҫꙑұ"),
    (0x01EE00, "\u0627\u0628\u062C\u062F"),
    (0x01EE05, "\u0648\u0632\u062D\u0637\u064A\u0643\u0644\u0645\u0646\u0633"),
    (0x01EE0F, "\u0639\u0641\u0635\u0642\u0631\u0634\u062A\u062B\u062E\u0630"),
    (0x01EE19, "\u0636\u0638\u063A\u066E\u06BA\u06A1\u066F"), (0x01EE21, "\u0628\u062C"),
    (0x01EE24, "\u0647"), (0x01EE27, "\u062D"),
    (0x01EE29, "\u064A\u0643\u0644\u0645\u0646\u0633\u0639\u0641\u0635\u0642"),
    (0x01EE34, "\u0634\u062A\u062B\u062E"), (0x01EE39, "\u0636"), (0x01EE3B, "\u063A"),
    (0x01EE42, "\u062C"), (0x01EE47, "\u062D"), (0x01EE49, "\u064A"), (0x01EE4B, "\u0644"),
    (0x01EE4D, "\u0646\u0633\u0639"), (0x01EE51, "\u0635\u0642"), (0x01EE54, "\u0634"),
    (0x01EE57, "\u062E"), (0x01EE59, "\u0636"), (0x01EE5B, "\u063A"), (0x01EE5D, "\u06BA"),
    (0x01EE5F, "\u066F"), (0x01EE61, "\u0628\u062C"), (0x01EE64, "\u0647"),
    (0x01EE67, "\u062D\u0637\u064A\u0643"),
    (0x01EE6C, "\u0645\u0646\u0633\u0639\u0641\u0635\u0642"),
    (0x01EE74, "\u0634\u062A\u062B\u062E"), (0x01EE79, "\u0636\u0638\u063A\u066E"),
    (0x01EE7E, "\u06A1"),
    (0x01EE80, "\u0627\u0628\u062C\u062F\u0647\u0648\u0632\u062D\u0637\u064A"),
    (0x01EE8B, "\u0644\u0645\u0646\u0633\u0639\u0641\u0635\u0642\u0631\u0634"),
    (0x01EE95, "\u062A\u062B\u062E\u0630\u0636\u0638\u063A"), (0x01EEA1, "\u0628\u062C\u062F"),
    (0x01EEA5, "\u0648\u0632\u062D\u0637\u064A"),
    (0x01EEAB, "\u0644\u0645\u0646\u0633\u0639\u0641\u0635\u0642\u0631\u0634"),
    (0x01EEB5, "\u062A\u062B\u062E\u0630\u0636\u0638\u063A"), (0x01F12B, "cr"),
    (0x01F130, "abcdefghijklmnopqrstuvwxyz"), (0x01F202, "サ"),
    (0x01F210, "手字双デ二多解天交映無料前後再新初終生販声吹演投捕一三遊左中右指走打禁空合満有月申割営配"), (0x01F250, "得可"),
    (0x01FBF0, "0123456789"),
    (0x02F800, "丽丸乁𠄢你侮侻倂偺備僧像㒞𠘺免兔兤具𠔜㒹內再𠕋冗冤仌冬况𩇟凵刃㓟刻剆割剷㔕勇勉勤勺包匆北卉卑博即卽卿卿卿𠨬灰及叟𠭣叫叱吆咞吸呈周"),
    (0x02F840, "咢哶唐啓啣善善喙喫喳嗂圖嘆圗噑噴切壮城埴堍型堲報墬𡓤売壷夆多夢奢𡚨𡛪姬娛娧姘婦㛮㛼嬈嬾嬾𡧈寃寘寧寳𡬘寿将当尢㞁屠屮峀岍𡷤嵃𡷦嵮嵫"),
    (0x02F880, "嵼巡巢㠯巽帨帽幩㡢𢆃㡼庰庳庶廊𪎒廾𢌱𢌱舁弢弢㣇𣊸𦇚形彫㣣徚忍志忹悁㤺㤜悔𢛔惇慈慌慎慌慺憎憲憤憯懞懲懶成戛扝抱拔捐𢬌挽拼捨掃揤𢯱搢"),
    (0x02F8C0, "揅掩㨮摩摾撝摷㩬敏敬𣀊旣書晉㬙暑㬈㫤冒冕最暜肭䏙朗望朡杞杓𣏃㭉柺枅桒梅𣑭梎栟椔㮝楂榣槪檨𣚣櫛㰘次𣢧歔㱎歲殟殺殻𣪍𡴋𣫺汎𣲼沿泍汧洖"),
    (0x02F900, "派海流浩浸涅𣴞洴港湮㴳滋滇𣻑淹潮𣽞𣾎濆瀹瀞瀛㶖灊災灷炭𠔥煅𤉣熜𤎫爨爵牐𤘈犀犕𤜵𤠔獺王㺬玥㺸㺸瑇瑜瑱璅瓊㼛甤𤰶甾𤲒異𢆟瘐𤾡𤾸𥁄㿼䀈"),
    (0x02F940, "直𥃳𥃲𥄙𥄳眞真真睊䀹瞋䁆䂖𥐝硎碌磌䃣𥘦祖𥚚𥛅福秫䄯穀穊穏𥥼𥪧𥪧竮䈂𥮫篆築䈧𥲀糒䊠糨糣紀𥾆絣䌁緇縂繅䌴𦈨𦉇䍙𦋙罺𦌾羕翺者𦓚𦔣聠𦖨聰"),
    (0x02F980, "𣍟䏕育脃䐋脾媵𦞧𦞵𣎓𣎜舁舄辞䑫芑芋芝劳花芳芽苦𦬼若茝荣莭茣莽菧著荓菊菌菜𦰶𦵫𦳕䔫蓱蓳蔖𧏊蕤𦼬䕝䕡𦾱𧃒䕫虐虜虧虩蚩蚈蜎蛢蝹蜨蝫螆䗗"),
    (0x02F9C0, "蟡蠁䗹衠衣𧙧裗裞䘵裺㒻𧢮𧥦䚾䛇誠諭變豕𧲨貫賁贛起𧼯𠠄跋趼跰𠣞軔輸𨗒𨗭邔郱鄑𨜮鄛鈸鋗鋘鉼鏹鐕𨯺開䦕閷𨵷䧦雃嶲霣𩅅𩈚䩮䩶韠𩐊䪲𩒖頋頋"),
    (0x02FA00, "頩𩖶飢䬳餩馧駂駾䯎𩬰鬒鱀鳽䳎䳭鵧𪃎䳸𪄅𪈎𪊑麻䵖黹黾鼅鼏鼖鼻𪘀")]

/-- Runs of characters that stand for several characters. -/
def wordImages : List (Nat × List String) :=
  [(0xA8, [" \u0308"]), (0xAF, [" \u0304"]), (0xB4, [" \u0301"]), (0xB8, [" \u0327"]),
    (0xBC, ["1⁄4", "1⁄2", "3⁄4"]), (0x0130, ["i\u0307"]), (0x0132, ["ij", "ij"]),
    (0x013F, ["l·", "l·"]), (0x0149, ["ʼn"]),
    (0x01C4, ["dž", "dž", "dž", "lj", "lj", "lj", "nj", "nj", "nj"]), (0x01F1, ["dz", "dz", "dz"]),
    (0x02D8, [" \u0306", " \u0307", " \u030A", " \u0328", " \u0303", " \u030B"]),
    (0x0344, ["\u0308\u0301"]), (0x037A, [" ι"]), (0x0384, [" \u0301", " \u0308\u0301"]),
    (0x0587, ["եւ"]), (0x0675, ["\u0627\u0674", "\u0648\u0674", "\u06C7\u0674", "\u064A\u0674"]),
    (0x0958, ["क\u093C", "ख\u093C", "ग\u093C", "ज\u093C", "ड\u093C", "ढ\u093C", "फ\u093C"]),
    (0x095F, ["य\u093C"]), (0x09DC, ["ড\u09BC", "ঢ\u09BC"]), (0x09DF, ["য\u09BC"]),
    (0x0A33, ["ਲ\u0A3C"]), (0x0A36, ["ਸ\u0A3C"]), (0x0A59, ["ਖ\u0A3C", "ਗ\u0A3C", "ਜ\u0A3C"]),
    (0x0A5E, ["ਫ\u0A3C"]), (0x0B5C, ["ଡ\u0B3C", "ଢ\u0B3C"]), (0x0E33, ["\u0E4Dา"]),
    (0x0EB3, ["\u0ECDາ"]), (0x0EDC, ["ຫນ", "ຫມ"]), (0x0F43, ["ག\u0FB7"]), (0x0F4D, ["ཌ\u0FB7"]),
    (0x0F52, ["ད\u0FB7"]), (0x0F57, ["བ\u0FB7"]), (0x0F5C, ["ཛ\u0FB7"]), (0x0F69, ["ཀ\u0FB5"]),
    (0x0F73, ["\u0F71\u0F72"]),
    (0x0F75, ["\u0F71\u0F74", "\u0FB2\u0F80", "\u0FB2\u0F71\u0F80", "\u0FB3\u0F80"]),
    (0x0F79, ["\u0FB3\u0F71\u0F80"]), (0x0F81, ["\u0F71\u0F80"]), (0x0F93, ["\u0F92\u0FB7"]),
    (0x0F9D, ["\u0F9C\u0FB7"]), (0x0FA2, ["\u0FA1\u0FB7"]), (0x0FA7, ["\u0FA6\u0FB7"]),
    (0x0FAC, ["\u0FAB\u0FB7"]), (0x0FB9, ["\u0F90\u0FB5"]), (0x1E9A, ["aʾ"]),
    (0x1F80, ["ἀι", "ἁι", "ἂι", "ἃι", "ἄι", "ἅι", "ἆι", "ἇι", "ἀι", "ἁι", "ἂι", "ἃι", "ἄι"]),
    (0x1F8D, ["ἅι", "ἆι", "ἇι", "ἠι", "ἡι", "ἢι", "ἣι", "ἤι", "ἥι", "ἦι", "ἧι", "ἠι", "ἡι"]),
    (0x1F9A, ["ἢι", "ἣι", "ἤι", "ἥι", "ἦι", "ἧι", "ὠι", "ὡι", "ὢι", "ὣι", "ὤι", "ὥι", "ὦι"]),
    (0x1FA7, ["ὧι", "ὠι", "ὡι", "ὢι", "ὣι", "ὤι", "ὥι", "ὦι", "ὧι"]), (0x1FB2, ["ὰι", "αι", "άι"]),
    (0x1FB7, ["ᾶι"]), (0x1FBC, ["αι", " \u0313"]),
    (0x1FBF, [" \u0313", " \u0342", " \u0308\u0342", "ὴι", "ηι", "ήι"]), (0x1FC7, ["ῆι"]),
    (0x1FCC, ["ηι", " \u0313\u0300", " \u0313\u0301", " \u0313\u0342"]),
    (0x1FDD, [" \u0314\u0300", " \u0314\u0301", " \u0314\u0342"]),
    (0x1FED, [" \u0308\u0300", " \u0308\u0301"]), (0x1FF2, ["ὼι", "ωι", "ώι"]), (0x1FF7, ["ῶι"]),
    (0x1FFC, ["ωι", " \u0301", " \u0314"]), (0x2017, [" \u0333"]), (0x2033, ["′′", "′′′"]),
    (0x2036, ["‵‵", "‵‵‵"]), (0x203C, ["!!"]), (0x203E, [" \u0305"]), (0x2047, ["??", "?!", "!?"]),
    (0x2057, ["′′′′"]), (0x20A8, ["rs"]), (0x2100, ["a/c", "a/s"]), (0x2103, ["°c"]),
    (0x2105, ["c/o", "c/u"]), (0x2109, ["°f"]), (0x2116, ["no"]), (0x2120, ["sm", "tel", "tm"]),
    (0x213B, ["fax"]),
    (0x2150, ["1⁄7", "1⁄9", "1⁄10", "1⁄3", "2⁄3", "1⁄5", "2⁄5", "3⁄5", "4⁄5", "1⁄6", "5⁄6"]),
    (0x215B, ["1⁄8", "3⁄8", "5⁄8", "7⁄8", "1⁄"]), (0x2161, ["ii", "iii", "iv"]),
    (0x2165, ["vi", "vii", "viii", "ix"]), (0x216A, ["xi", "xii"]), (0x2171, ["ii", "iii", "iv"]),
    (0x2175, ["vi", "vii", "viii", "ix"]), (0x217A, ["xi", "xii"]), (0x2189, ["0⁄3"]),
    (0x222C, ["∫∫", "∫∫∫"]), (0x222F, ["∮∮", "∮∮∮"]),
    (0x2469, ["10", "11", "12", "13", "14", "15", "16", "17", "18", "19", "20", "(1)", "(2)"]),
    (0x2476, ["(3)", "(4)", "(5)", "(6)", "(7)", "(8)", "(9)", "(10)", "(11)", "(12)"]),
    (0x2480, ["(13)", "(14)", "(15)", "(16)", "(17)", "(18)", "(19)", "(20)"]),
    (0x249C, ["(a)", "(b)", "(c)", "(d)", "(e)", "(f)", "(g)", "(h)", "(i)", "(j)", "(k)"]),
    (0x24A7, ["(l)", "(m)", "(n)", "(o)", "(p)", "(q)", "(r)", "(s)", "(t)", "(u)", "(v)"]),
    (0x24B2, ["(w)", "(x)", "(y)", "(z)"]), (0x2A0C, ["∫∫∫∫"]), (0x2A74, ["::=", "==", "==="]),
    (0x2ADC, ["⫝\u0338"]), (0x309B, [" \u3099", " \u309A"]), (0x309F, ["より"]), (0x30FF, ["コト"]),
    (0x3200, ["(ᄀ)", "(ᄂ)", "(ᄃ)", "(ᄅ)", "(ᄆ)", "(ᄇ)", "(ᄉ)", "(ᄋ)", "(ᄌ)", "(ᄎ)", "(ᄏ)"]),
    (0x320B, ["(ᄐ)", "(ᄑ)", "(ᄒ)", "(가)", "(나)", "(다)", "(라)", "(마)", "(바)", "(사)", "(아)"]),
    (0x3216, ["(자)", "(차)", "(카)", "(타)", "(파)", "(하)", "(주)", "(오전)", "(오후)"]),
    (0x3220, ["(一)", "(二)", "(三)", "(四)", "(五)", "(六)", "(七)", "(八)", "(九)", "(十)", "(月)"]),
    (0x322B, ["(火)", "(水)", "(木)", "(金)", "(土)", "(日)", "(株)", "(有)", "(社)", "(名)", "(特)"]),
    (0x3236, ["(財)", "(祝)", "(労)", "(代)", "(呼)", "(学)", "(監)", "(企)", "(資)", "(協)", "(祭)"]),
    (0x3241, ["(休)", "(自)", "(至)"]),
    (0x3250, ["pte", "21", "22", "23", "24", "25", "26", "27", "28", "29", "30", "31", "32"]),
    (0x325D, ["33", "34", "35"]), (0x327C, ["참고", "주의"]),
    (0x32B1, ["36", "37", "38", "39", "40", "41", "42", "43", "44", "45", "46", "47", "48"]),
    (0x32BE, ["49", "50", "1月", "2月", "3月", "4月", "5月", "6月", "7月", "8月", "9月", "10月", "11月"]),
    (0x32CB, ["12月", "hg", "erg", "ev", "ltd"]),
    (0x32FF, ["令和", "アパート", "アルファ", "アンペア", "アール", "イニング", "インチ", "ウォン", "エスクード", "エーカー"]),
    (0x3309, ["オンス", "オーム", "カイリ", "カラット", "カロリー", "ガロン", "ガンマ", "ギガ", "ギニー", "キュリー", "ギルダー"]),
    (0x3314, ["キロ", "キログラム", "キロメートル", "キロワット", "グラム", "グラムトン", "クルゼイロ", "クローネ", "ケース"]),
    (0x331D, ["コルナ", "コーポ", "サイクル", "サンチーム", "シリング", "センチ", "セント", "ダース", "デシ", "ドル", "トン"]),
    (0x3328, ["ナノ", "ノット", "ハイツ", "パーセント", "パーツ", "バーレル", "ピアストル", "ピクル", "ピコ", "ビル"]),
    (0x3332, ["ファラッド", "フィート", "ブッシェル", "フラン", "ヘクタール", "ペソ", "ペニヒ", "ヘルツ", "ペンス", "ページ"]),
    (0x333C, ["ベータ", "ポイント", "ボルト", "ホン", "ポンド", "ホール", "ホーン", "マイクロ", "マイル", "マッハ", "マルク"]),
    (0x3347, ["マンション", "ミクロン", "ミリ", "ミリバール", "メガ", "メガトン", "メートル", "ヤード", "ヤール", "ユアン"]),
    (0x3351, ["リットル", "リラ", "ルピー", "ルーブル", "レム", "レントゲン", "ワット", "0点", "1点", "2点", "3点"]),
    (0x335C, ["4点", "5点", "6点", "7点", "8点", "9点", "10点", "11点", "12点", "13点", "14点", "15点"]),
    (0x3368, ["16点", "17点", "18点", "19点", "20点", "21点", "22点", "23点", "24点", "hpa", "da"]),
    (0x3373, ["au", "bar", "ov", "pc", "dm", "dm2", "dm3", "iu", "平成", "昭和", "大正", "明治"]),
    (0x337F, ["株式会社", "pa", "na", "μa", "ma", "ka", "kb", "mb", "gb", "cal", "kcal", "pf"]),
    (0x338B, ["nf", "μf", "μg", "mg", "kg", "hz", "khz", "mhz", "ghz", "thz", "μl", "ml"]),
    (0x3397, ["dl", "kl", "fm", "nm", "μm", "mm", "cm", "km", "mm2", "cm2", "m2", "km2"]),
    (0x33A3, ["mm3", "cm3", "m3", "km3", "m∕s", "m∕s2", "pa", "kpa", "mpa", "gpa", "rad"]),
    (0x33AE, ["rad∕s", "rad∕s2", "ps", "ns", "μs", "ms", "pv", "nv", "μv", "mv", "kv", "mv"]),
    (0x33BA, ["pw", "nw", "μw", "mw", "kw", "mw", "kω", "mω"]),
    (0x33C3, ["bq", "cc", "cd", "c∕kg"]),
    (0x33C8, ["db", "gy", "ha", "hp", "in", "kk", "km", "kt", "lm", "ln", "log", "lx", "mb"]),
    (0x33D5, ["mil", "mol", "ph"]),
    (0x33D9, ["ppm", "pr", "sr", "sv", "wb", "v∕m", "a∕m", "1日", "2日", "3日", "4日", "5日"]),
    (0x33E5, ["6日", "7日", "8日", "9日", "10日", "11日", "12日", "13日", "14日", "15日", "16日", "17日"]),
    (0x33F1, ["18日", "19日", "20日", "21日", "22日", "23日", "24日", "25日", "26日", "27日", "28日"]),
    (0x33FC, ["29日", "30日", "31日", "gal"]), (0xFB00, ["ff", "fi", "fl", "ffi", "ffl", "st", "st"]),
    (0xFB13, ["մն", "մե", "մի", "վն", "մխ"]), (0xFB1D, ["\u05D9\u05B4"]),
    (0xFB1F, ["\u05F2\u05B7"]),
    (0xFB2A, ["\u05E9\u05C1", "\u05E9\u05C2", "\u05E9\u05BC\u05C1", "\u05E9\u05BC\u05C2"]),
    (0xFB2E, ["\u05D0\u05B7", "\u05D0\u05B8", "\u05D0\u05BC", "\u05D1\u05BC", "\u05D2\u05BC"]),
    (0xFB33, ["\u05D3\u05BC", "\u05D4\u05BC", "\u05D5\u05BC", "\u05D6\u05BC"]),
    (0xFB38, ["\u05D8\u05BC", "\u05D9\u05BC", "\u05DA\u05BC", "\u05DB\u05BC", "\u05DC\u05BC"]),
    (0xFB3E, ["\u05DE\u05BC"]), (0xFB40, ["\u05E0\u05BC", "\u05E1\u05BC"]),
    (0xFB43, ["\u05E3\u05BC", "\u05E4\u05BC"]),
    (0xFB46, ["\u05E6\u05BC", "\u05E7\u05BC", "\u05E8\u05BC", "\u05E9\u05BC", "\u05EA\u05BC"]),
    (0xFB4B, ["\u05D5\u05B9", "\u05D1\u05BF", "\u05DB\u05BF", "\u05E4\u05BF", "\u05D0\u05DC"]),
    (0xFBDD, ["\u06C7\u0674"]),
    (0xFBEA, ["\u0626\u0627", "\u0626\u0627", "\u0626\u06D5", "\u0626\u06D5", "\u0626\u0648"]),
    (0xFBEF, ["\u0626\u0648", "\u0626\u06C7", "\u0626\u06C7", "\u0626\u06C6", "\u0626\u06C6"]),
    (0xFBF4, ["\u0626\u06C8", "\u0626\u06C8", "\u0626\u06D0", "\u0626\u06D0", "\u0626\u06D0"]),
    (0xFBF9, ["\u0626\u0649", "\u0626\u0649", "\u0626\u0649"]),
    (0xFC00, ["\u0626\u062C", "\u0626\u062D", "\u0626\u0645", "\u0626\u0649", "\u0626\u064A"]),
    (0xFC05, ["\u0628\u062C", "\u0628\u062D", "\u0628\u062E", "\u0628\u0645", "\u0628\u0649"]),
    (0xFC0A, ["\u0628\u064A", "\u062A\u062C", "\u062A\u062D", "\u062A\u062E", "\u062A\u0645"]),
    (0xFC0F, ["\u062A\u0649", "\u062A\u064A", "\u062B\u062C", "\u062B\u0645", "\u062B\u0649"]),
    (0xFC14, ["\u062B\u064A", "\u062C\u062D", "\u062C\u0645", "\u062D\u062C", "\u062D\u0645"]),
    (0xFC19, ["\u062E\u062C", "\u062E\u062D", "\u062E\u0645", "\u0633\u062C", "\u0633\u062D"]),
    (0xFC1E, ["\u0633\u062E", "\u0633\u0645", "\u0635\u062D", "\u0635\u0645", "\u0636\u062C"]),
    (0xFC23, ["\u0636\u062D", "\u0636\u062E", "\u0636\u0645", "\u0637\u062D", "\u0637\u0645"]),
    (0xFC28, ["\u0638\u0645", "\u0639\u062C", "\u0639\u0645", "\u063A\u062C", "\u063A\u0645"]),
    (0xFC2D, ["\u0641\u062C", "\u0641\u062D", "\u0641\u062E", "\u0641\u0645", "\u0641\u0649"]),
    (0xFC32, ["\u0641\u064A", "\u0642\u062D", "\u0642\u0645", "\u0642\u0649", "\u0642\u064A"]),
    (0xFC37, ["\u0643\u0627", "\u0643\u062C", "\u0643\u062D", "\u0643\u062E", "\u0643\u0644"]),
    (0xFC3C, ["\u0643\u0645", "\u0643\u0649", "\u0643\u064A", "\u0644\u062C", "\u0644\u062D"]),
    (0xFC41, ["\u0644\u062E", "\u0644\u0645", "\u0644\u0649", "\u0644\u064A", "\u0645\u062C"]),
    (0xFC46, ["\u0645\u062D", "\u0645\u062E", "\u0645\u0645", "\u0645\u0649", "\u0645\u064A"]),
    (0xFC4B, ["\u0646\u062C", "\u0646\u062D", "\u0646\u062E", "\u0646\u0645", "\u0646\u0649"]),
    (0xFC50, ["\u0646\u064A", "\u0647\u062C", "\u0647\u0645", "\u0647\u0649", "\u0647\u064A"]),
    (0xFC55, ["\u064A\u062C", "\u064A\u062D", "\u064A\u062E", "\u064A\u0645", "\u064A\u0649"]),
    (0xFC5A, ["\u064A\u064A", "\u0630\u0670", "\u0631\u0670", "\u0649\u0670"]),
    (0xFC5E, [" \u064C\u0651", " \u064D\u0651", " \u064E\u0651", " \u064F\u0651"]),
    (0xFC62, [" \u0650\u0651", " \u0651\u0670", "\u0626\u0631", "\u0626\u0632"]),
    (0xFC66, ["\u0626\u0645", "\u0626\u0646", "\u0626\u0649", "\u0626\u064A", "\u0628\u0631"]),
    (0xFC6B, ["\u0628\u0632", "\u0628\u0645", "\u0628\u0646", "\u0628\u0649", "\u0628\u064A"]),
    (0xFC70, ["\u062A\u0631", "\u062A\u0632", "\u062A\u0645", "\u062A\u0646", "\u062A\u0649"]),
    (0xFC75, ["\u062A\u064A", "\u062B\u0631", "\u062B\u0632", "\u062B\u0645", "\u062B\u0646"]),
    (0xFC7A, ["\u062B\u0649", "\u062B\u064A", "\u0641\u0649", "\u0641\u064A", "\u0642\u0649"]),
    (0xFC7F, ["\u0642\u064A", "\u0643\u0627", "\u0643\u0644", "\u0643\u0645", "\u0643\u0649"]),
    (0xFC84, ["\u0643\u064A", "\u0644\u0645", "\u0644\u0649", "\u0644\u064A", "\u0645\u0627"]),
    (0xFC89, ["\u0645\u0645", "\u0646\u0631", "\u0646\u0632", "\u0646\u0645", "\u0646\u0646"]),
    (0xFC8E, ["\u0646\u0649", "\u0646\u064A", "\u0649\u0670", "\u064A\u0631", "\u064A\u0632"]),
    (0xFC93, ["\u064A\u0645", "\u064A\u0646", "\u064A\u0649", "\u064A\u064A", "\u0626\u062C"]),
    (0xFC98, ["\u0626\u062D", "\u0626\u062E", "\u0626\u0645", "\u0626\u0647", "\u0628\u062C"]),
    (0xFC9D, ["\u0628\u062D", "\u0628\u062E", "\u0628\u0645", "\u0628\u0647", "\u062A\u062C"]),
    (0xFCA2, ["\u062A\u062D", "\u062A\u062E", "\u062A\u0645", "\u062A\u0647", "\u062B\u0645"]),
    (0xFCA7, ["\u062C\u062D", "\u062C\u0645", "\u062D\u062C", "\u062D\u0645", "\u062E\u062C"]),
    (0xFCAC, ["\u062E\u0645", "\u0633\u062C", "\u0633\u062D", "\u0633\u062E", "\u0633\u0645"]),
    (0xFCB1, ["\u0635\u062D", "\u0635\u062E", "\u0635\u0645", "\u0636\u062C", "\u0636\u062D"]),
    (0xFCB6, ["\u0636\u062E", "\u0636\u0645", "\u0637\u062D", "\u0638\u0645", "\u0639\u062C"]),
    (0xFCBB, ["\u0639\u0645", "\u063A\u062C", "\u063A\u0645", "\u0641\u062C", "\u0641\u062D"]),
    (0xFCC0, ["\u0641\u062E", "\u0641\u0645", "\u0642\u062D", "\u0642\u0645", "\u0643\u062C"]),
    (0xFCC5, ["\u0643\u062D", "\u0643\u062E", "\u0643\u0644", "\u0643\u0645", "\u0644\u062C"]),
    (0xFCCA, ["\u0644\u062D", "\u0644\u062E", "\u0644\u0645", "\u0644\u0647", "\u0645\u062C"]),
    (0xFCCF, ["\u0645\u062D", "\u0645\u062E", "\u0645\u0645", "\u0646\u062C", "\u0646\u062D"]),
    (0xFCD4, ["\u0646\u062E", "\u0646\u0645", "\u0646\u0647", "\u0647\u062C", "\u0647\u0645"]),
    (0xFCD9, ["\u0647\u0670", "\u064A\u062C", "\u064A\u062D", "\u064A\u062E", "\u064A\u0645"]),
    (0xFCDE, ["\u064A\u0647", "\u0626\u0645", "\u0626\u0647", "\u0628\u0645", "\u0628\u0647"]),
    (0xFCE3, ["\u062A\u0645", "\u062A\u0647", "\u062B\u0645", "\u062B\u0647", "\u0633\u0645"]),
    (0xFCE8, ["\u0633\u0647", "\u0634\u0645", "\u0634\u0647", "\u0643\u0644", "\u0643\u0645"]),
    (0xFCED, ["\u0644\u0645", "\u0646\u0645", "\u0646\u0647", "\u064A\u0645", "\u064A\u0647"]),
    (0xFCF2, ["\u0640\u064E\u0651", "\u0640\u064F\u0651", "\u0640\u0650\u0651"]),
    (0xFCF5, ["\u0637\u0649", "\u0637\u064A", "\u0639\u0649", "\u0639\u064A", "\u063A\u0649"]),
    (0xFCFA, ["\u063A\u064A", "\u0633\u0649", "\u0633\u064A", "\u0634\u0649", "\u0634\u064A"]),
    (0xFCFF, ["\u062D\u0649", "\u062D\u064A", "\u062C\u0649", "\u062C\u064A", "\u062E\u0649"]),
    (0xFD04, ["\u062E\u064A", "\u0635\u0649", "\u0635\u064A", "\u0636\u0649", "\u0636\u064A"]),
    (0xFD09, ["\u0634\u062C", "\u0634\u062D", "\u0634\u062E", "\u0634\u0645", "\u0634\u0631"]),
    (0xFD0E, ["\u0633\u0631", "\u0635\u0631", "\u0636\u0631", "\u0637\u0649", "\u0637\u064A"]),
    (0xFD13, ["\u0639\u0649", "\u0639\u064A", "\u063A\u0649", "\u063A\u064A", "\u0633\u0649"]),
    (0xFD18, ["\u0633\u064A", "\u0634\u0649", "\u0634\u064A", "\u062D\u0649", "\u062D\u064A"]),
    (0xFD1D, ["\u062C\u0649", "\u062C\u064A", "\u062E\u0649", "\u062E\u064A", "\u0635\u0649"]),
    (0xFD22, ["\u0635\u064A", "\u0636\u0649", "\u0636\u064A", "\u0634\u062C", "\u0634\u062D"]),
    (0xFD27, ["\u0634\u062E", "\u0634\u0645", "\u0634\u0631", "\u0633\u0631", "\u0635\u0631"]),
    (0xFD2C, ["\u0636\u0631", "\u0634\u062C", "\u0634\u062D", "\u0634\u062E", "\u0634\u0645"]),
    (0xFD31, ["\u0633\u0647", "\u0634\u0647", "\u0637\u0645", "\u0633\u062C", "\u0633\u062D"]),
    (0xFD36, ["\u0633\u062E", "\u0634\u062C", "\u0634\u062D", "\u0634\u062E", "\u0637\u0645"]),
    (0xFD3B, ["\u0638\u0645", "\u0627\u064B", "\u0627\u064B"]),
    (0xFD50, ["\u062A\u062C\u0645", "\u062A\u062D\u062C", "\u062A\u062D\u062C"]),
    (0xFD53, ["\u062A\u062D\u0645", "\u062A\u062E\u0645", "\u062A\u0645\u062C"]),
    (0xFD56, ["\u062A\u0645\u062D", "\u062A\u0645\u062E", "\u062C\u0645\u062D"]),
    (0xFD59, ["\u062C\u0645\u062D", "\u062D\u0645\u064A", "\u062D\u0645\u0649"]),
    (0xFD5C, ["\u0633\u062D\u062C", "\u0633\u062C\u062D", "\u0633\u062C\u0649"]),
    (0xFD5F, ["\u0633\u0645\u062D", "\u0633\u0645\u062D", "\u0633\u0645\u062C"]),
    (0xFD62, ["\u0633\u0645\u0645", "\u0633\u0645\u0645", "\u0635\u062D\u062D"]),
    (0xFD65, ["\u0635\u062D\u062D", "\u0635\u0645\u0645", "\u0634\u062D\u0645"]),
    (0xFD68, ["\u0634\u062D\u0645", "\u0634\u062C\u064A", "\u0634\u0645\u062E"]),
    (0xFD6B, ["\u0634\u0645\u062E", "\u0634\u0645\u0645", "\u0634\u0645\u0645"]),
    (0xFD6E, ["\u0636\u062D\u0649", "\u0636\u062E\u0645", "\u0636\u062E\u0645"]),
    (0xFD71, ["\u0637\u0645\u062D", "\u0637\u0645\u062D", "\u0637\u0645\u0645"]),
    (0xFD74, ["\u0637\u0645\u064A", "\u0639\u062C\u0645", "\u0639\u0645\u0645"]),
    (0xFD77, ["\u0639\u0645\u0645", "\u0639\u0645\u0649", "\u063A\u0645\u0645"]),
    (0xFD7A, ["\u063A\u0645\u064A", "\u063A\u0645\u0649", "\u0641\u062E\u0645"]),
    (0xFD7D, ["\u0641\u062E\u0645", "\u0642\u0645\u062D", "\u0642\u0645\u0645"]),
    (0xFD80, ["\u0644\u062D\u0645", "\u0644\u062D\u064A", "\u0644\u062D\u0649"]),
    (0xFD83, ["\u0644\u062C\u062C", "\u0644\u062C\u062C", "\u0644\u062E\u0645"]),
    (0xFD86, ["\u0644\u062E\u0645", "\u0644\u0645\u062D", "\u0644\u0645\u062D"]),
    (0xFD89, ["\u0645\u062D\u062C", "\u0645\u062D\u0645", "\u0645\u062D\u064A"]),
    (0xFD8C, ["\u0645\u062C\u062D", "\u0645\u062C\u0645", "\u0645\u062E\u062C"]),
    (0xFD8F, ["\u0645\u062E\u0645"]),
    (0xFD92, ["\u0645\u062C\u062E", "\u0647\u0645\u062C", "\u0647\u0645\u0645"]),
    (0xFD95, ["\u0646\u062D\u0645", "\u0646\u062D\u0649", "\u0646\u062C\u0645"]),
    (0xFD98, ["\u0646\u062C\u0645", "\u0646\u062C\u0649", "\u0646\u0645\u064A"]),
    (0xFD9B, ["\u0646\u0645\u0649", "\u064A\u0645\u0645", "\u064A\u0645\u0645"]),
    (0xFD9E, ["\u0628\u062E\u064A", "\u062A\u062C\u064A", "\u062A\u062C\u0649"]),
    (0xFDA1, ["\u062A\u062E\u064A", "\u062A\u062E\u0649", "\u062A\u0645\u064A"]),
    (0xFDA4, ["\u062A\u0645\u0649", "\u062C\u0645\u064A", "\u062C\u062D\u0649"]),
    (0xFDA7, ["\u062C\u0645\u0649", "\u0633\u062E\u0649", "\u0635\u062D\u064A"]),
    (0xFDAA, ["\u0634\u062D\u064A", "\u0636\u062D\u064A", "\u0644\u062C\u064A"]),
    (0xFDAD, ["\u0644\u0645\u064A", "\u064A\u062D\u064A", "\u064A\u062C\u064A"]),
    (0xFDB0, ["\u064A\u0645\u064A", "\u0645\u0645\u064A", "\u0642\u0645\u064A"]),
    (0xFDB3, ["\u0646\u062D\u064A", "\u0642\u0645\u062D", "\u0644\u062D\u0645"]),
    (0xFDB6, ["\u0639\u0645\u064A", "\u0643\u0645\u064A", "\u0646\u062C\u062D"]),
    (0xFDB9, ["\u0645\u062E\u064A", "\u0644\u062C\u0645", "\u0643\u0645\u0645"]),
    (0xFDBC, ["\u0644\u062C\u0645", "\u0646\u062C\u062D", "\u062C\u062D\u064A"]),
    (0xFDBF, ["\u062D\u062C\u064A", "\u0645\u062C\u064A", "\u0641\u0645\u064A"]),
    (0xFDC2, ["\u0628\u062D\u064A", "\u0643\u0645\u0645", "\u0639\u062C\u0645"]),
    (0xFDC5, ["\u0635\u0645\u0645", "\u0633\u062E\u064A", "\u0646\u062C\u064A"]),
    (0xFDF0, ["\u0635\u0644\u06D2", "\u0642\u0644\u06D2", "\u0627\u0644\u0644\u0647"]),
    (0xFDF3, ["\u0627\u0643\u0628\u0631", "\u0645\u062D\u0645\u062F"]),
    (0xFDF5, ["\u0635\u0644\u0639\u0645", "\u0631\u0633\u0648\u0644"]),
    (0xFDF7, ["\u0639\u0644\u064A\u0647", "\u0648\u0633\u0644\u0645", "\u0635\u0644\u0649"]),
    (0xFDFA, ["\u0635\u0644\u0649 \u0627\u0644\u0644\u0647" ++
      " \u0639\u0644\u064A\u0647 \u0648\u0633\u0644\u0645"]),
    (0xFDFB, ["\u062C\u0644 \u062C\u0644\u0627\u0644\u0647", "\u0631\u06CC\u0627\u0644"]),
    (0xFE49, [" \u0305", " \u0305", " \u0305", " \u0305"]),
    (0xFE70, [" \u064B", "\u0640\u064B", " \u064C"]), (0xFE74, [" \u064D"]),
    (0xFE76, [" \u064E", "\u0640\u064E", " \u064F", "\u0640\u064F", " \u0650"]),
    (0xFE7B, ["\u0640\u0650", " \u0651", "\u0640\u0651", " \u0652", "\u0640\u0652"]),
    (0xFEF5, ["\u0644\u0622", "\u0644\u0622", "\u0644\u0623", "\u0644\u0623", "\u0644\u0625"]),
    (0xFEFA, ["\u0644\u0625", "\u0644\u0627", "\u0644\u0627"]), (0xFFE3, [" \u0304"]),
    (0x01D15E, ["𝅗𝅥", "𝅘𝅥", "𝅘𝅥𝅮", "𝅘𝅥𝅯", "𝅘𝅥𝅰", "𝅘𝅥𝅱", "𝅘𝅥𝅲"]),
    (0x01D1BB, ["𝆹𝅥", "𝆺𝅥", "𝆹𝅥𝅮", "𝆺𝅥𝅮", "𝆹𝅥𝅯", "𝆺𝅥𝅯"]),
    (0x01F101, ["0,", "1,", "2,", "3,", "4,", "5,", "6,", "7,", "8,", "9,"]),
    (0x01F110, ["(a)", "(b)", "(c)", "(d)", "(e)", "(f)", "(g)", "(h)", "(i)", "(j)", "(k)"]),
    (0x01F11B, ["(l)", "(m)", "(n)", "(o)", "(p)", "(q)", "(r)", "(s)", "(t)", "(u)", "(v)"]),
    (0x01F126, ["(w)", "(x)", "(y)", "(z)", "〔s〕"]), (0x01F12D, ["cd", "wz"]),
    (0x01F14A, ["hv", "mv", "sd", "ss", "ppv", "wc"]), (0x01F16A, ["mc", "md", "mr"]),
    (0x01F190, ["dj"]), (0x01F200, ["ほか", "ココ"]),
    (0x01F240, ["〔本〕", "〔三〕", "〔二〕", "〔安〕", "〔点〕", "〔打〕", "〔盗〕", "〔勝〕", "〔敗〕"])]

/-- The code points that stand for nothing. -/
def ignoredRanges : List (Nat × Nat) :=
  [(0xAD, 0xAD), (0x034F, 0x034F), (0x115F, 0x1160), (0x17B4, 0x17B5), (0x180B, 0x180F),
    (0x200B, 0x200B), (0x2060, 0x2064), (0x206A, 0x206F), (0x3164, 0x3164), (0xFE00, 0xFE0F),
    (0xFEFF, 0xFEFF), (0xFFA0, 0xFFA0), (0x01BCA0, 0x01BCA3), (0x01D173, 0x01D17A),
    (0x0E0100, 0x0E01EF)]

/-- The code points that can be shown and still may not occur. -/
def refusedRanges : List (Nat × Nat) :=
  [(0x2024, 0x2026), (0x2488, 0x249B), (0x2FF0, 0x2FFF), (0x31EF, 0x31EF), (0x33C2, 0x33C2),
    (0x33C7, 0x33C7), (0x33D8, 0x33D8), (0xFE12, 0xFE12), (0xFE19, 0xFE19), (0xFE30, 0xFE30),
    (0xFE52, 0xFE52), (0xFFFC, 0xFFFD), (0x01F100, 0x01F100)]

/-- The characters that keep neighbours apart or join them. They may occur though they cannot be
shown. -/
def joiners : List Char := ['\u200C', '\u200D']

/-- The small letters that stand for themselves though they agree with another one. -/
def keptLetters : List Char := ['\u03C2']

def listedImage? (n : Nat) : Option (List Char) :=
  (letterImages.findSome? fun run =>
    if run.1 ≤ n then (run.2.toList[n - run.1]?).map fun c => [c] else none).or
  (wordImages.findSome? fun run =>
    if run.1 ≤ n then (run.2[n - run.1]?).map String.toList else none)

/-- What a character stands for, if it may occur. -/
def image? (c : Char) : Option (List Char) :=
  if Text.within ignoredRanges c.toNat then some []
  else if joiners.contains c || keptLetters.contains c then some [c]
  else
    match listedImage? c.toNat with
    | some cs => some cs
    | none =>
      if c.toNat < 0x80 || (Text.isPrintable c && !Text.within refusedRanges c.toNat) then
        some [Text.fold c]
      else none

def standsForItself (c : Char) : Bool := image? c == some [c]

end ClusterGate.Url
