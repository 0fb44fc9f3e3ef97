import Workflow.Text.Composition
import Workflow.Text.Lowercase
import Workflow.Text.Mark

/-!
# The spelling of domain names

A domain name can be written with characters that differ in looks only: capital letters, wide forms,
ligatures, letters in circles. Each has one spelling that counts. Some characters do not count at
all, and those without a meaning in a name are refused.
-/

namespace Workflow.Url

/-- Characters that follow each other, with their spellings. -/
structure SpellingRow where
  first : Nat
  last : Nat
  /-- The spellings with blanks between them. The sign `␣` in them stands for a blank. -/
  spellings : String

/-- The spellings of characters that are not just those of capital letters. -/
def spellingRows : List SpellingRow :=
  [⟨0xA0, 0xA0, "␣"⟩, ⟨0xA8, 0xA8, "␣\u0308"⟩, ⟨0xAA, 0xAA, "a"⟩, ⟨0xAF, 0xAF, "␣\u0304"⟩,
   ⟨0xB2, 0xB5, "2 3 ␣\u0301 μ"⟩, ⟨0xB8, 0xBA, "␣\u0327 1 o"⟩, ⟨0xBC, 0xBE, "1⁄4 1⁄2 3⁄4"⟩,
   ⟨0x132, 0x133, "ij ij"⟩, ⟨0x13F, 0x140, "l· l·"⟩, ⟨0x149, 0x149, "ʼn"⟩, ⟨0x17F, 0x17F, "s"⟩,
   ⟨0x1C4, 0x1CC, "dž dž dž lj lj lj nj nj nj"⟩, ⟨0x1F1, 0x1F3, "dz dz dz"⟩,
   ⟨0x2B0, 0x2B8, "h ɦ j r ɹ ɻ ʁ w y"⟩,
   ⟨0x2D8, 0x2DD, "␣\u0306 ␣\u0307 ␣\u030a ␣\u0328 ␣\u0303 ␣\u030b"⟩, ⟨0x2E0, 0x2E4, "ɣ l s x ʕ"⟩,
   ⟨0x340, 0x341, "\u0300 \u0301"⟩, ⟨0x343, 0x345, "\u0313 \u0308\u0301 ι"⟩, ⟨0x374, 0x374, "ʹ"⟩,
   ⟨0x37A, 0x37A, "␣ι"⟩, ⟨0x37E, 0x37E, ";"⟩, ⟨0x384, 0x384, "␣\u0301"⟩, ⟨0x387, 0x387, "·"⟩,
   ⟨0x3D0, 0x3D2, "β θ υ"⟩, ⟨0x3D5, 0x3D6, "φ π"⟩, ⟨0x3F0, 0x3F2, "κ ρ σ"⟩, ⟨0x3F5, 0x3F5, "ε"⟩,
   ⟨0x3F9, 0x3F9, "σ"⟩, ⟨0x587, 0x587, "եւ"⟩, ⟨0x675, 0x678, "اٴ وٴ ۇٴ يٴ"⟩,
   ⟨0x958, 0x95F, "क\u093c ख\u093c ग\u093c ज\u093c ड\u093c ढ\u093c फ\u093c य\u093c"⟩,
   ⟨0x9DC, 0x9DD, "ড\u09bc ঢ\u09bc"⟩, ⟨0x9DF, 0x9DF, "য\u09bc"⟩, ⟨0xA33, 0xA33, "ਲ\u0a3c"⟩,
   ⟨0xA36, 0xA36, "ਸ\u0a3c"⟩, ⟨0xA59, 0xA5B, "ਖ\u0a3c ਗ\u0a3c ਜ\u0a3c"⟩,
   ⟨0xA5E, 0xA5E, "ਫ\u0a3c"⟩, ⟨0xB5C, 0xB5D, "ଡ\u0b3c ଢ\u0b3c"⟩, ⟨0xE33, 0xE33, "\u0e4dา"⟩,
   ⟨0xEB3, 0xEB3, "\u0ecdາ"⟩, ⟨0xEDC, 0xEDD, "ຫນ ຫມ"⟩, ⟨0xF0C, 0xF0C, "་"⟩,
   ⟨0xF43, 0xF43, "ག\u0fb7"⟩, ⟨0xF4D, 0xF4D, "ཌ\u0fb7"⟩, ⟨0xF52, 0xF52, "ད\u0fb7"⟩,
   ⟨0xF57, 0xF57, "བ\u0fb7"⟩, ⟨0xF5C, 0xF5C, "ཛ\u0fb7"⟩, ⟨0xF69, 0xF69, "ཀ\u0fb5"⟩,
   ⟨0xF73, 0xF73, "\u0f71\u0f72"⟩,
   ⟨0xF75, 0xF78, "\u0f71\u0f74 \u0fb2\u0f80 \u0fb2\u0f71\u0f80 \u0fb3\u0f80"⟩,
   ⟨0xF79, 0xF79, "\u0fb3\u0f71\u0f80"⟩, ⟨0xF81, 0xF81, "\u0f71\u0f80"⟩,
   ⟨0xF93, 0xF93, "\u0f92\u0fb7"⟩, ⟨0xF9D, 0xF9D, "\u0f9c\u0fb7"⟩, ⟨0xFA2, 0xFA2, "\u0fa1\u0fb7"⟩,
   ⟨0xFA7, 0xFA7, "\u0fa6\u0fb7"⟩, ⟨0xFAC, 0xFAC, "\u0fab\u0fb7"⟩, ⟨0xFB9, 0xFB9, "\u0f90\u0fb5"⟩,
   ⟨0x10FC, 0x10FC, "ნ"⟩, ⟨0x13F8, 0x13FD, "Ᏸ Ᏹ Ᏺ Ᏻ Ᏼ Ᏽ"⟩, ⟨0x1C80, 0x1C88, "в д о с т т ъ ѣ ꙋ"⟩,
   ⟨0x1D2C, 0x1D2E, "a æ b"⟩, ⟨0x1D30, 0x1D3A, "d e ǝ g h i j k l m n"⟩,
   ⟨0x1D3C, 0x1D4D, "o ȣ p r t u w a ɐ ɑ ᴂ b d e ə ɛ ɜ g"⟩,
   ⟨0x1D4F, 0x1D6A, "k m ŋ o ɔ ᴖ ᴗ p t u ᴝ ɯ v ᴥ β γ δ φ χ i r u v β γ ρ φ χ"⟩,
   ⟨0x1D78, 0x1D78, "н"⟩,
   ⟨0x1D9B, 0x1DBD, "ɒ c ɕ ð ɜ f ɟ ɡ ɥ ɨ ɩ ɪ ᵻ ʝ ɭ ᶅ ʟ ɱ ɰ ɲ ɳ ɴ ɵ ɸ ʂ ʃ ƫ ʉ ʊ ᴜ ʋ ʌ z ʐ ʑ"⟩,
   ⟨0x1DBE, 0x1DBF, "ʒ θ"⟩, ⟨0x1E9A, 0x1E9A, "aʾ"⟩, ⟨0x1F71, 0x1F71, "ά"⟩, ⟨0x1F73, 0x1F73, "έ"⟩,
   ⟨0x1F75, 0x1F75, "ή"⟩, ⟨0x1F77, 0x1F77, "ί"⟩, ⟨0x1F79, 0x1F79, "ό"⟩, ⟨0x1F7B, 0x1F7B, "ύ"⟩,
   ⟨0x1F7D, 0x1F7D, "ώ"⟩, ⟨0x1FBB, 0x1FBB, "ά"⟩, ⟨0x1FBD, 0x1FC0, "␣\u0313 ι ␣\u0313 ␣\u0342"⟩,
   ⟨0x1FC9, 0x1FC9, "έ"⟩, ⟨0x1FCB, 0x1FCB, "ή"⟩, ⟨0x1FD3, 0x1FD3, "ΐ"⟩, ⟨0x1FDB, 0x1FDB, "ί"⟩,
   ⟨0x1FE3, 0x1FE3, "ΰ"⟩, ⟨0x1FEB, 0x1FEB, "ύ"⟩, ⟨0x1FEE, 0x1FEF, "␣\u0308\u0301 \x60"⟩,
   ⟨0x1FF9, 0x1FF9, "ό"⟩, ⟨0x1FFB, 0x1FFB, "ώ"⟩, ⟨0x1FFD, 0x1FFE, "␣\u0301 ␣\u0314"⟩,
   ⟨0x2000, 0x200A, "␣ ␣ ␣ ␣ ␣ ␣ ␣ ␣ ␣ ␣ ␣"⟩, ⟨0x2011, 0x2011, "‐"⟩, ⟨0x2017, 0x2017, "␣\u0333"⟩,
   ⟨0x202F, 0x202F, "␣"⟩, ⟨0x2033, 0x2034, "′′ ′′′"⟩, ⟨0x2036, 0x2037, "‵‵ ‵‵‵"⟩,
   ⟨0x203C, 0x203C, "!!"⟩, ⟨0x203E, 0x203E, "␣\u0305"⟩, ⟨0x2047, 0x2049, "?? ?! !?"⟩,
   ⟨0x2057, 0x2057, "′′′′"⟩, ⟨0x205F, 0x205F, "␣"⟩, ⟨0x2070, 0x2071, "0 i"⟩,
   ⟨0x2074, 0x208E, "4 5 6 7 8 9 + − = ( ) n 0 1 2 3 4 5 6 7 8 9 + − = ( )"⟩,
   ⟨0x2090, 0x209C, "a e o x ə h k l m n p s t"⟩, ⟨0x20A8, 0x20A8, "rs"⟩,
   ⟨0x2100, 0x2103, "a/c a/s c °c"⟩, ⟨0x2105, 0x2107, "c/o c/u ɛ"⟩,
   ⟨0x2109, 0x2113, "°f g h h h h ħ i i l l"⟩, ⟨0x2115, 0x2116, "n no"⟩,
   ⟨0x2119, 0x211D, "p q r r r"⟩, ⟨0x2120, 0x2122, "sm tel tm"⟩, ⟨0x2124, 0x2124, "z"⟩,
   ⟨0x2128, 0x2128, "z"⟩, ⟨0x212C, 0x212D, "b c"⟩, ⟨0x212F, 0x2131, "e e f"⟩,
   ⟨0x2133, 0x2139, "m o א ב ג ד i"⟩, ⟨0x213B, 0x2140, "fax π γ γ π ∑"⟩,
   ⟨0x2145, 0x2149, "d d e i j"⟩,
   ⟨0x2150, 0x2161, "1⁄7 1⁄9 1⁄10 1⁄3 2⁄3 1⁄5 2⁄5 3⁄5 4⁄5 1⁄6 5⁄6 1⁄8 3⁄8 5⁄8 7⁄8 1⁄ i ii"⟩,
   ⟨0x2162, 0x2178, "iii iv v vi vii viii ix x xi xii l c d m i ii iii iv v vi vii viii ix"⟩,
   ⟨0x2179, 0x217F, "x xi xii l c d m"⟩, ⟨0x2189, 0x2189, "0⁄3"⟩, ⟨0x222C, 0x222D, "∫∫ ∫∫∫"⟩,
   ⟨0x222F, 0x2230, "∮∮ ∮∮∮"⟩, ⟨0x2329, 0x232A, "〈 〉"⟩,
   ⟨0x2460, 0x2478, "1 2 3 4 5 6 7 8 9 10 11 12 13 14 15 16 17 18 19 20 (1) (2) (3) (4) (5)"⟩,
   ⟨0x2479, 0x2487, "(6) (7) (8) (9) (10) (11) (12) (13) (14) (15) (16) (17) (18) (19) (20)"⟩,
   ⟨0x249C, 0x24AC, "(a) (b) (c) (d) (e) (f) (g) (h) (i) (j) (k) (l) (m) (n) (o) (p) (q)"⟩,
   ⟨0x24AD, 0x24C6, "(r) (s) (t) (u) (v) (w) (x) (y) (z) a b c d e f g h i j k l m n o p q"⟩,
   ⟨0x24C7, 0x24E9, "r s t u v w x y z a b c d e f g h i j k l m n o p q r s t u v w x y z"⟩,
   ⟨0x24EA, 0x24EA, "0"⟩, ⟨0x2A0C, 0x2A0C, "∫∫∫∫"⟩, ⟨0x2A74, 0x2A76, "::= == ==="⟩,
   ⟨0x2ADC, 0x2ADC, "⫝\u0338"⟩, ⟨0x2C7C, 0x2C7D, "j v"⟩, ⟨0x2D6F, 0x2D6F, "ⵡ"⟩,
   ⟨0x2E9F, 0x2E9F, "母"⟩, ⟨0x2EF3, 0x2EF3, "龟"⟩,
   ⟨0x2F00, 0x2F22, "一 丨 丶 丿 乙 亅 二 亠 人 儿 入 八 冂 冖 冫 几 凵 刀 力 勹 匕 匚 匸 十 卜 卩 厂 厶 又 口 囗 土 士 夂 夊"⟩,
   ⟨0x2F23, 0x2F45, "夕 大 女 子 宀 寸 小 尢 尸 屮 山 巛 工 己 巾 干 幺 广 廴 廾 弋 弓 彐 彡 彳 心 戈 戶 手 支 攴 文 斗 斤 方"⟩,
   ⟨0x2F46, 0x2F68, "无 日 曰 月 木 欠 止 歹 殳 毋 比 毛 氏 气 水 火 爪 父 爻 爿 片 牙 牛 犬 玄 玉 瓜 瓦 甘 生 用 田 疋 疒 癶"⟩,
   ⟨0x2F69, 0x2F8B, "白 皮 皿 目 矛 矢 石 示 禸 禾 穴 立 竹 米 糸 缶 网 羊 羽 老 而 耒 耳 聿 肉 臣 自 至 臼 舌 舛 舟 艮 色 艸"⟩,
   ⟨0x2F8C, 0x2FAE, "虍 虫 血 行 衣 襾 見 角 言 谷 豆 豕 豸 貝 赤 走 足 身 車 辛 辰 辵 邑 酉 釆 里 金 長 門 阜 隶 隹 雨 靑 非"⟩,
   ⟨0x2FAF, 0x2FD1, "面 革 韋 韭 音 頁 風 飛 食 首 香 馬 骨 高 髟 鬥 鬯 鬲 鬼 魚 鳥 鹵 鹿 麥 麻 黃 黍 黑 黹 黽 鼎 鼓 鼠 鼻 齊"⟩,
   ⟨0x2FD2, 0x2FD5, "齒 龍 龜 龠"⟩, ⟨0x3000, 0x3000, "␣"⟩, ⟨0x3002, 0x3002, "."⟩,
   ⟨0x3036, 0x3036, "〒"⟩, ⟨0x3038, 0x303A, "十 卄 卅"⟩, ⟨0x309B, 0x309C, "␣\u3099 ␣\u309a"⟩,
   ⟨0x309F, 0x309F, "より"⟩, ⟨0x30FF, 0x30FF, "コト"⟩,
   ⟨0x3131, 0x3153, "ᄀ ᄁ ᆪ ᄂ ᆬ ᆭ ᄃ ᄄ ᄅ ᆰ ᆱ ᆲ ᆳ ᆴ ᆵ ᄚ ᄆ ᄇ ᄈ ᄡ ᄉ ᄊ ᄋ ᄌ ᄍ ᄎ ᄏ ᄐ ᄑ ᄒ ᅡ ᅢ ᅣ ᅤ ᅥ"⟩,
   ⟨0x3154, 0x3163, "ᅦ ᅧ ᅨ ᅩ ᅪ ᅫ ᅬ ᅭ ᅮ ᅯ ᅰ ᅱ ᅲ ᅳ ᅴ ᅵ"⟩,
   ⟨0x3165, 0x3187, "ᄔ ᄕ ᇇ ᇈ ᇌ ᇎ ᇓ ᇗ ᇙ ᄜ ᇝ ᇟ ᄝ ᄞ ᄠ ᄢ ᄣ ᄧ ᄩ ᄫ ᄬ ᄭ ᄮ ᄯ ᄲ ᄶ ᅀ ᅇ ᅌ ᇱ ᇲ ᅗ ᅘ ᅙ ᆄ"⟩,
   ⟨0x3188, 0x318E, "ᆅ ᆈ ᆑ ᆒ ᆔ ᆞ ᆡ"⟩, ⟨0x3192, 0x319F, "一 二 三 四 上 中 下 甲 乙 丙 丁 天 地 人"⟩,
   ⟨0x3200, 0x3210, "(ᄀ) (ᄂ) (ᄃ) (ᄅ) (ᄆ) (ᄇ) (ᄉ) (ᄋ) (ᄌ) (ᄎ) (ᄏ) (ᄐ) (ᄑ) (ᄒ) (가) (나) (다)"⟩,
   ⟨0x3211, 0x321E, "(라) (마) (바) (사) (아) (자) (차) (카) (타) (파) (하) (주) (오전) (오후)"⟩,
   ⟨0x3220, 0x3230, "(一) (二) (三) (四) (五) (六) (七) (八) (九) (十) (月) (火) (水) (木) (金) (土) (日)"⟩,
   ⟨0x3231, 0x3241, "(株) (有) (社) (名) (特) (財) (祝) (労) (代) (呼) (学) (監) (企) (資) (協) (祭) (休)"⟩,
   ⟨0x3242, 0x3247, "(自) (至) 問 幼 文 箏"⟩,
   ⟨0x3250, 0x326A, "pte 21 22 23 24 25 26 27 28 29 30 31 32 33 34 35 ᄀ ᄂ ᄃ ᄅ ᄆ ᄇ ᄉ ᄋ ᄌ ᄎ ᄏ"⟩,
   ⟨0x326B, 0x327E, "ᄐ ᄑ ᄒ 가 나 다 라 마 바 사 아 자 차 카 타 파 하 참고 주의 우"⟩,
   ⟨0x3280, 0x32A2, "一 二 三 四 五 六 七 八 九 十 月 火 水 木 金 土 日 株 有 社 名 特 財 祝 労 秘 男 女 適 優 印 注 項 休 写"⟩,
   ⟨0x32A3, 0x32BE, "正 上 中 下 左 右 医 宗 学 監 企 資 協 夜 36 37 38 39 40 41 42 43 44 45 46 47 48 49"⟩,
   ⟨0x32BF, 0x32D6, "50 1月 2月 3月 4月 5月 6月 7月 8月 9月 10月 11月 12月 hg erg ev ltd ア イ ウ エ オ カ キ"⟩,
   ⟨0x32D7, 0x32F9, "ク ケ コ サ シ ス セ ソ タ チ ツ テ ト ナ ニ ヌ ネ ノ ハ ヒ フ ヘ ホ マ ミ ム メ モ ヤ ユ ヨ ラ リ ル レ"⟩,
   ⟨0x32FA, 0x330B, "ロ ワ ヰ ヱ ヲ 令和 アパート アルファ アンペア アール イニング インチ ウォン エスクード エーカー オンス オーム カイリ"⟩,
   ⟨0x330C, 0x3319, "カラット カロリー ガロン ガンマ ギガ ギニー キュリー ギルダー キロ キログラム キロメートル キロワット グラム グラムトン"⟩,
   ⟨0x331A, 0x332A, "クルゼイロ クローネ ケース コルナ コーポ サイクル サンチーム シリング センチ セント ダース デシ ドル トン ナノ ノット ハイツ"⟩,
   ⟨0x332B, 0x3339, "パーセント パーツ バーレル ピアストル ピクル ピコ ビル ファラッド フィート ブッシェル フラン ヘクタール ペソ ペニヒ ヘルツ"⟩,
   ⟨0x333A, 0x3349, "ペンス ページ ベータ ポイント ボルト ホン ポンド ホール ホーン マイクロ マイル マッハ マルク マンション ミクロン ミリ"⟩,
   ⟨0x334A, 0x335A, "ミリバール メガ メガトン メートル ヤード ヤール ユアン リットル リラ ルピー ルーブル レム レントゲン ワット 0点 1点 2点"⟩,
   ⟨0x335B, 0x336D, "3点 4点 5点 6点 7点 8点 9点 10点 11点 12点 13点 14点 15点 16点 17点 18点 19点 20点 21点"⟩,
   ⟨0x336E, 0x3381, "22点 23点 24点 hpa da au bar ov pc dm dm2 dm3 iu 平成 昭和 大正 明治 株式会社 pa na"⟩,
   ⟨0x3382, 0x3396, "μa ma ka kb mb gb cal kcal pf nf μf μg mg kg hz khz mhz ghz thz μl ml"⟩,
   ⟨0x3397, 0x33AA, "dl kl fm nm μm mm cm km mm2 cm2 m2 km2 mm3 cm3 m3 km3 m∕s m∕s2 pa kpa"⟩,
   ⟨0x33AB, 0x33BE, "mpa gpa rad rad∕s rad∕s2 ps ns μs ms pv nv μv mv kv mv pw nw μw mw kw"⟩,
   ⟨0x33BF, 0x33C1, "mw kω mω"⟩, ⟨0x33C3, 0x33C6, "bq cc cd c∕kg"⟩,
   ⟨0x33C8, 0x33D7, "db gy ha hp in kk km kt lm ln log lx mb mil mol ph"⟩,
   ⟨0x33D9, 0x33ED, "ppm pr sr sv wb v∕m a∕m 1日 2日 3日 4日 5日 6日 7日 8日 9日 10日 11日 12日 13日 14日"⟩,
   ⟨0x33EE, 0x33FE, "15日 16日 17日 18日 19日 20日 21日 22日 23日 24日 25日 26日 27日 28日 29日 30日 31日"⟩,
   ⟨0x33FF, 0x33FF, "gal"⟩, ⟨0xA69C, 0xA69D, "ъ ь"⟩, ⟨0xA770, 0xA770, "ꝯ"⟩,
   ⟨0xA7F2, 0xA7F4, "c f q"⟩, ⟨0xA7F8, 0xA7F9, "ħ œ"⟩, ⟨0xAB5C, 0xAB5F, "ꜧ ꬷ ɫ ꭒ"⟩,
   ⟨0xAB69, 0xAB69, "ʍ"⟩,
   ⟨0xAB70, 0xAB92, "Ꭰ Ꭱ Ꭲ Ꭳ Ꭴ Ꭵ Ꭶ Ꭷ Ꭸ Ꭹ Ꭺ Ꭻ Ꭼ Ꭽ Ꭾ Ꭿ Ꮀ Ꮁ Ꮂ Ꮃ Ꮄ Ꮅ Ꮆ Ꮇ Ꮈ Ꮉ Ꮊ Ꮋ Ꮌ Ꮍ Ꮎ Ꮏ Ꮐ Ꮑ Ꮒ"⟩,
   ⟨0xAB93, 0xABB5, "Ꮓ Ꮔ Ꮕ Ꮖ Ꮗ Ꮘ Ꮙ Ꮚ Ꮛ Ꮜ Ꮝ Ꮞ Ꮟ Ꮠ Ꮡ Ꮢ Ꮣ Ꮤ Ꮥ Ꮦ Ꮧ Ꮨ Ꮩ Ꮪ Ꮫ Ꮬ Ꮭ Ꮮ Ꮯ Ꮰ Ꮱ Ꮲ Ꮳ Ꮴ Ꮵ"⟩,
   ⟨0xABB6, 0xABBF, "Ꮶ Ꮷ Ꮸ Ꮹ Ꮺ Ꮻ Ꮼ Ꮽ Ꮾ Ꮿ"⟩,
   ⟨0xF900, 0xF922, "豈 更 車 賈 滑 串 句 龜 龜 契 金 喇 奈 懶 癩 羅 蘿 螺 裸 邏 樂 洛 烙 珞 落 酪 駱 亂 卵 欄 爛 蘭 鸞 嵐 濫"⟩,
   ⟨0xF923, 0xF945, "藍 襤 拉 臘 蠟 廊 朗 浪 狼 郎 來 冷 勞 擄 櫓 爐 盧 老 蘆 虜 路 露 魯 鷺 碌 祿 綠 菉 錄 鹿 論 壟 弄 籠 聾"⟩,
   ⟨0xF946, 0xF968, "牢 磊 賂 雷 壘 屢 樓 淚 漏 累 縷 陋 勒 肋 凜 凌 稜 綾 菱 陵 讀 拏 樂 諾 丹 寧 怒 率 異 北 磻 便 復 不 泌"⟩,
   ⟨0xF969, 0xF98B, "數 索 參 塞 省 葉 說 殺 辰 沈 拾 若 掠 略 亮 兩 凉 梁 糧 良 諒 量 勵 呂 女 廬 旅 濾 礪 閭 驪 麗 黎 力 曆"⟩,
   ⟨0xF98C, 0xF9AE, "歷 轢 年 憐 戀 撚 漣 煉 璉 秊 練 聯 輦 蓮 連 鍊 列 劣 咽 烈 裂 說 廉 念 捻 殮 簾 獵 令 囹 寧 嶺 怜 玲 瑩"⟩,
   ⟨0xF9AF, 0xF9D1, "羚 聆 鈴 零 靈 領 例 禮 醴 隸 惡 了 僚 寮 尿 料 樂 燎 療 蓼 遼 龍 暈 阮 劉 杻 柳 流 溜 琉 留 硫 紐 類 六"⟩,
   ⟨0xF9D2, 0xF9F4, "戮 陸 倫 崙 淪 輪 律 慄 栗 率 隆 利 吏 履 易 李 梨 泥 理 痢 罹 裏 裡 里 離 匿 溺 吝 燐 璘 藺 隣 鱗 麟 林"⟩,
   ⟨0xF9F5, 0xFA0D, "淋 臨 立 笠 粒 狀 炙 識 什 茶 刺 切 度 拓 糖 宅 洞 暴 輻 行 降 見 廓 兀 嗀"⟩, ⟨0xFA10, 0xFA10, "塚"⟩,
   ⟨0xFA12, 0xFA12, "晴"⟩, ⟨0xFA15, 0xFA1E, "凞 猪 益 礼 神 祥 福 靖 精 羽"⟩, ⟨0xFA20, 0xFA20, "蘒"⟩,
   ⟨0xFA22, 0xFA22, "諸"⟩, ⟨0xFA25, 0xFA26, "逸 都"⟩,
   ⟨0xFA2A, 0xFA4C, "飯 飼 館 鶴 郞 隷 侮 僧 免 勉 勤 卑 喝 嘆 器 塀 墨 層 屮 悔 慨 憎 懲 敏 既 暑 梅 海 渚 漢 煮 爫 琢 碑 社"⟩,
   ⟨0xFA4D, 0xFA6D, "祉 祈 祐 祖 祝 禍 禎 穀 突 節 練 縉 繁 署 者 臭 艹 艹 著 褐 視 謁 謹 賓 贈 辶 逸 難 響 頻 恵 𤋮 舘"⟩,
   ⟨0xFA70, 0xFA92, "並 况 全 侀 充 冀 勇 勺 喝 啕 喙 嗢 塚 墳 奄 奔 婢 嬨 廒 廙 彩 徭 惘 慎 愈 憎 慠 懲 戴 揄 搜 摒 敖 晴 朗"⟩,
   ⟨0xFA93, 0xFAB5, "望 杖 歹 殺 流 滛 滋 漢 瀞 煮 瞧 爵 犯 猪 瑱 甆 画 瘝 瘟 益 盛 直 睊 着 磌 窱 節 类 絛 練 缾 者 荒 華 蝹"⟩,
   ⟨0xFAB6, 0xFAD8, "襁 覆 視 調 諸 請 謁 諾 諭 謹 變 贈 輸 遲 醙 鉶 陼 難 靖 韛 響 頋 頻 鬒 龜 𢡊 𢡄 𣏕 㮝 䀘 䀹 𥉉 𥳐 𧻓 齃"⟩,
   ⟨0xFAD9, 0xFAD9, "龎"⟩, ⟨0xFB00, 0xFB06, "ff fi fl ffi ffl st st"⟩,
   ⟨0xFB13, 0xFB17, "մն մե մի վն մխ"⟩, ⟨0xFB1D, 0xFB1D, "י\u05b4"⟩,
   ⟨0xFB1F, 0xFB2C, "ײ\u05b7 ע א ד ה כ ל ם ר ת + ש\u05c1 ש\u05c2 ש\u05bc\u05c1"⟩,
   ⟨0xFB2D, 0xFB34, "ש\u05bc\u05c2 א\u05b7 א\u05b8 א\u05bc ב\u05bc ג\u05bc ד\u05bc ה\u05bc"⟩,
   ⟨0xFB35, 0xFB36, "ו\u05bc ז\u05bc"⟩,
   ⟨0xFB38, 0xFB3C, "ט\u05bc י\u05bc ך\u05bc כ\u05bc ל\u05bc"⟩, ⟨0xFB3E, 0xFB3E, "מ\u05bc"⟩,
   ⟨0xFB40, 0xFB41, "נ\u05bc ס\u05bc"⟩, ⟨0xFB43, 0xFB44, "ף\u05bc פ\u05bc"⟩,
   ⟨0xFB46, 0xFB4D, "צ\u05bc ק\u05bc ר\u05bc ש\u05bc ת\u05bc ו\u05b9 ב\u05bf כ\u05bf"⟩,
   ⟨0xFB4E, 0xFB6D, "פ\u05bf אל ٱ ٱ ٻ ٻ ٻ ٻ پ پ پ پ ڀ ڀ ڀ ڀ ٺ ٺ ٺ ٺ ٿ ٿ ٿ ٿ ٹ ٹ ٹ ٹ ڤ ڤ ڤ ڤ"⟩,
   ⟨0xFB6E, 0xFB90, "ڦ ڦ ڦ ڦ ڄ ڄ ڄ ڄ ڃ ڃ ڃ ڃ چ چ چ چ ڇ ڇ ڇ ڇ ڍ ڍ ڌ ڌ ڎ ڎ ڈ ڈ ژ ژ ڑ ڑ ک ک ک"⟩,
   ⟨0xFB91, 0xFBB1, "ک گ گ گ گ ڳ ڳ ڳ ڳ ڱ ڱ ڱ ڱ ں ں ڻ ڻ ڻ ڻ ۀ ۀ ہ ہ ہ ہ ھ ھ ھ ھ ے ے ۓ ۓ"⟩,
   ⟨0xFBD3, 0xFBF1, "ڭ ڭ ڭ ڭ ۇ ۇ ۆ ۆ ۈ ۈ ۇٴ ۋ ۋ ۅ ۅ ۉ ۉ ې ې ې ې ى ى ئا ئا ئە ئە ئو ئو ئۇ ئۇ"⟩,
   ⟨0xFBF2, 0xFC0A, "ئۆ ئۆ ئۈ ئۈ ئې ئې ئې ئى ئى ئى ی ی ی ی ئج ئح ئم ئى ئي بج بح بخ بم بى بي"⟩,
   ⟨0xFC0B, 0xFC21, "تج تح تخ تم تى تي ثج ثم ثى ثي جح جم حج حم خج خح خم سج سح سخ سم صح صم"⟩,
   ⟨0xFC22, 0xFC38, "ضج ضح ضخ ضم طح طم ظم عج عم غج غم فج فح فخ فم فى في قح قم قى قي كا كج"⟩,
   ⟨0xFC39, 0xFC4F, "كح كخ كل كم كى كي لج لح لخ لم لى لي مج مح مخ مم مى مي نج نح نخ نم نى"⟩,
   ⟨0xFC50, 0xFC5E, "ني هج هم هى هي يج يح يخ يم يى يي ذ\u0670 ر\u0670 ى\u0670 ␣\u064c\u0651"⟩,
   ⟨0xFC5F, 0xFC63, "␣\u064d\u0651 ␣\u064e\u0651 ␣\u064f\u0651 ␣\u0650\u0651 ␣\u0651\u0670"⟩,
   ⟨0xFC64, 0xFC7A, "ئر ئز ئم ئن ئى ئي بر بز بم بن بى بي تر تز تم تن تى تي ثر ثز ثم ثن ثى"⟩,
   ⟨0xFC7B, 0xFC90, "ثي فى في قى قي كا كل كم كى كي لم لى لي ما مم نر نز نم نن نى ني ى\u0670"⟩,
   ⟨0xFC91, 0xFCA7, "ير يز يم ين يى يي ئج ئح ئخ ئم ئه بج بح بخ بم به تج تح تخ تم ته ثم جح"⟩,
   ⟨0xFCA8, 0xFCBE, "جم حج حم خج خم سج سح سخ سم صح صخ صم ضج ضح ضخ ضم طح ظم عج عم غج غم فج"⟩,
   ⟨0xFCBF, 0xFCD5, "فح فخ فم قح قم كج كح كخ كل كم لج لح لخ لم له مج مح مخ مم نج نح نخ نم"⟩,
   ⟨0xFCD6, 0xFCEB, "نه هج هم ه\u0670 يج يح يخ يم يه ئم ئه بم به تم ته ثم ثه سم سه شم شه كل"⟩,
   ⟨0xFCEC, 0xFCF7, "كم لم نم نه يم يه ـ\u064e\u0651 ـ\u064f\u0651 ـ\u0650\u0651 طى طي عى"⟩,
   ⟨0xFCF8, 0xFD0E, "عي غى غي سى سي شى شي حى حي جى جي خى خي صى صي ضى ضي شج شح شخ شم شر سر"⟩,
   ⟨0xFD0F, 0xFD25, "صر ضر طى طي عى عي غى غي سى سي شى شي حى حي جى جي خى خي صى صي ضى ضي شج"⟩,
   ⟨0xFD26, 0xFD3B, "شح شخ شم شر سر صر ضر شج شح شخ شم سه شه طم سج سح سخ شج شح شخ طم ظم"⟩,
   ⟨0xFD3C, 0xFD3D, "ا\u064b ا\u064b"⟩,
   ⟨0xFD50, 0xFD60, "تجم تحج تحج تحم تخم تمج تمح تمخ جمح جمح حمي حمى سحج سجح سجى سمح سمح"⟩,
   ⟨0xFD61, 0xFD71, "سمج سمم سمم صحح صحح صمم شحم شحم شجي شمخ شمخ شمم شمم ضحى ضخم ضخم طمح"⟩,
   ⟨0xFD72, 0xFD82, "طمح طمم طمي عجم عمم عمم عمى غمم غمي غمى فخم فخم قمح قمم لحم لحي لحى"⟩,
   ⟨0xFD83, 0xFD8F, "لجج لجج لخم لخم لمح لمح محج محم محي مجح مجم مخج مخم"⟩,
   ⟨0xFD92, 0xFDA2, "مجخ همج همم نحم نحى نجم نجم نجى نمي نمى يمم يمم بخي تجي تجى تخي تخى"⟩,
   ⟨0xFDA3, 0xFDB3, "تمي تمى جمي جحى جمى سخى صحي شحي ضحي لجي لمي يحي يجي يمي ممي قمي نحي"⟩,
   ⟨0xFDB4, 0xFDC4, "قمح لحم عمي كمي نجح مخي لجم كمم لجم نجح جحي حجي مجي فمي بحي كمم عجم"⟩,
   ⟨0xFDC5, 0xFDC7, "صمم سخي نجي"⟩,
   ⟨0xFDF0, 0xFDFA, "صلے قلے الله اكبر محمد صلعم رسول عليه وسلم صلى صلى␣الله␣عليه␣وسلم"⟩,
   ⟨0xFDFB, 0xFDFC, "جل␣جلاله ریال"⟩, ⟨0xFE10, 0xFE11, ", 、"⟩, ⟨0xFE13, 0xFE18, ": ; ! ? 〖 〗"⟩,
   ⟨0xFE31, 0xFE44, "— – _ _ ( ) \x7b \x7d 〔 〕 【 】 《 》 〈 〉 「 」 『 』"⟩,
   ⟨0xFE47, 0xFE51, "[ ] ␣\u0305 ␣\u0305 ␣\u0305 ␣\u0305 _ _ _ , 、"⟩,
   ⟨0xFE54, 0xFE66, "; : ? ! — ( ) \x7b \x7d 〔 〕 # & * + - < > ="⟩, ⟨0xFE68, 0xFE6B, "\\ $ % @"⟩,
   ⟨0xFE70, 0xFE72, "␣\u064b ـ\u064b ␣\u064c"⟩, ⟨0xFE74, 0xFE74, "␣\u064d"⟩,
   ⟨0xFE76, 0xFE7D, "␣\u064e ـ\u064e ␣\u064f ـ\u064f ␣\u0650 ـ\u0650 ␣\u0651 ـ\u0651"⟩,
   ⟨0xFE7E, 0xFE9A, "␣\u0652 ـ\u0652 ء آ آ أ أ ؤ ؤ إ إ ئ ئ ئ ئ ا ا ب ب ب ب ة ة ت ت ت ت ث ث"⟩,
   ⟨0xFE9B, 0xFEBD, "ث ث ج ج ج ج ح ح ح ح خ خ خ خ د د ذ ذ ر ر ز ز س س س س ش ش ش ش ص ص ص ص ض"⟩,
   ⟨0xFEBE, 0xFEE0, "ض ض ض ط ط ط ط ظ ظ ظ ظ ع ع ع ع غ غ غ غ ف ف ف ف ق ق ق ق ك ك ك ك ل ل ل ل"⟩,
   ⟨0xFEE1, 0xFEFC, "م م م م ن ن ن ن ه ه ه ه و و ى ى ي ي ي ي لآ لآ لأ لأ لإ لإ لا لا"⟩,
   ⟨0xFF01, 0xFF23, "! \" # $ % & ' ( ) * + , - . / 0 1 2 3 4 5 6 7 8 9 : ; < = > ? @ a b c"⟩,
   ⟨0xFF24, 0xFF44, "d e f g h i j k l m n o p q r s t u v w x y z [ \\ ] ^ _ \x60 a b c d"⟩,
   ⟨0xFF45, 0xFF64, "e f g h i j k l m n o p q r s t u v w x y z \x7b | \x7d ~ ⦅ ⦆ . 「 」 、"⟩,
   ⟨0xFF65, 0xFF87, "・ ヲ ァ ィ ゥ ェ ォ ャ ュ ョ ッ ー ア イ ウ エ オ カ キ ク ケ コ サ シ ス セ ソ タ チ ツ テ ト ナ ニ ヌ"⟩,
   ⟨0xFF88, 0xFF9F, "ネ ノ ハ ヒ フ ヘ ホ マ ミ ム メ モ ヤ ユ ヨ ラ リ ル レ ロ ワ ン \u3099 \u309a"⟩,
   ⟨0xFFA1, 0xFFBE, "ᄀ ᄁ ᆪ ᄂ ᆬ ᆭ ᄃ ᄄ ᄅ ᆰ ᆱ ᆲ ᆳ ᆴ ᆵ ᄚ ᄆ ᄇ ᄈ ᄡ ᄉ ᄊ ᄋ ᄌ ᄍ ᄎ ᄏ ᄐ ᄑ ᄒ"⟩,
   ⟨0xFFC2, 0xFFC7, "ᅡ ᅢ ᅣ ᅤ ᅥ ᅦ"⟩, ⟨0xFFCA, 0xFFCF, "ᅧ ᅨ ᅩ ᅪ ᅫ ᅬ"⟩,
   ⟨0xFFD2, 0xFFD7, "ᅭ ᅮ ᅯ ᅰ ᅱ ᅲ"⟩, ⟨0xFFDA, 0xFFDC, "ᅳ ᅴ ᅵ"⟩,
   ⟨0xFFE0, 0xFFE6, "¢ £ ¬ ␣\u0304 ¦ ¥ ₩"⟩, ⟨0xFFE8, 0xFFEE, "│ ← ↑ → ↓ ■ ○"⟩,
   ⟨0x10781, 0x10785, "ː ˑ æ ʙ ɓ"⟩,
   ⟨0x10787, 0x107A9, "ʣ ꭦ ʥ ʤ ɖ ɗ ᶑ ɘ ɞ ʩ ɤ ɢ ɠ ʛ ħ ʜ ɧ ʄ ʪ ʫ ɬ 𝼄 ꞎ ɮ 𝼅 ʎ 𝼆 ø ɶ ɷ q ɺ 𝼈 ɽ ɾ"⟩,
   ⟨0x107AA, 0x107B0, "ʀ ʨ ʦ ꭧ ʧ ʈ ⱱ"⟩, ⟨0x107B2, 0x107BA, "ʏ ʡ ʢ ʘ ǀ ǁ ǂ 𝼊 𝼞"⟩,
   ⟨0x1CCD6, 0x1CCF8, "a b c d e f g h i j k l m n o p q r s t u v w x y z 0 1 2 3 4 5 6 7 8"⟩,
   ⟨0x1CCF9, 0x1CCF9, "9"⟩, ⟨0x1D15E, 0x1D164, "𝅗𝅥 𝅘𝅥 𝅘𝅥𝅮 𝅘𝅥𝅯 𝅘𝅥𝅰 𝅘𝅥𝅱 𝅘𝅥𝅲"⟩,
   ⟨0x1D1BB, 0x1D1C0, "𝆹𝅥 𝆺𝅥 𝆹𝅥𝅮 𝆺𝅥𝅮 𝆹𝅥𝅯 𝆺𝅥𝅯"⟩,
   ⟨0x1D400, 0x1D422, "a b c d e f g h i j k l m n o p q r s t u v w x y z a b c d e f g h i"⟩,
   ⟨0x1D423, 0x1D445, "j k l m n o p q r s t u v w x y z a b c d e f g h i j k l m n o p q r"⟩,
   ⟨0x1D446, 0x1D454, "s t u v w x y z a b c d e f g"⟩,
   ⟨0x1D456, 0x1D478, "i j k l m n o p q r s t u v w x y z a b c d e f g h i j k l m n o p q"⟩,
   ⟨0x1D479, 0x1D49B, "r s t u v w x y z a b c d e f g h i j k l m n o p q r s t u v w x y z"⟩,
   ⟨0x1D49C, 0x1D49C, "a"⟩, ⟨0x1D49E, 0x1D49F, "c d"⟩, ⟨0x1D4A2, 0x1D4A2, "g"⟩,
   ⟨0x1D4A5, 0x1D4A6, "j k"⟩, ⟨0x1D4A9, 0x1D4AC, "n o p q"⟩,
   ⟨0x1D4AE, 0x1D4B9, "s t u v w x y z a b c d"⟩, ⟨0x1D4BB, 0x1D4BB, "f"⟩,
   ⟨0x1D4BD, 0x1D4C3, "h i j k l m n"⟩,
   ⟨0x1D4C5, 0x1D4E7, "p q r s t u v w x y z a b c d e f g h i j k l m n o p q r s t u v w x"⟩,
   ⟨0x1D4E8, 0x1D505, "y z a b c d e f g h i j k l m n o p q r s t u v w x y z a b"⟩,
   ⟨0x1D507, 0x1D50A, "d e f g"⟩, ⟨0x1D50D, 0x1D514, "j k l m n o p q"⟩,
   ⟨0x1D516, 0x1D51C, "s t u v w x y"⟩,
   ⟨0x1D51E, 0x1D539, "a b c d e f g h i j k l m n o p q r s t u v w x y z a b"⟩,
   ⟨0x1D53B, 0x1D53E, "d e f g"⟩, ⟨0x1D540, 0x1D544, "i j k l m"⟩, ⟨0x1D546, 0x1D546, "o"⟩,
   ⟨0x1D54A, 0x1D550, "s t u v w x y"⟩,
   ⟨0x1D552, 0x1D574, "a b c d e f g h i j k l m n o p q r s t u v w x y z a b c d e f g h i"⟩,
   ⟨0x1D575, 0x1D597, "j k l m n o p q r s t u v w x y z a b c d e f g h i j k l m n o p q r"⟩,
   ⟨0x1D598, 0x1D5BA, "s t u v w x y z a b c d e f g h i j k l m n o p q r s t u v w x y z a"⟩,
   ⟨0x1D5BB, 0x1D5DD, "b c d e f g h i j k l m n o p q r s t u v w x y z a b c d e f g h i j"⟩,
   ⟨0x1D5DE, 0x1D600, "k l m n o p q r s t u v w x y z a b c d e f g h i j k l m n o p q r s"⟩,
   ⟨0x1D601, 0x1D623, "t u v w x y z a b c d e f g h i j k l m n o p q r s t u v w x y z a b"⟩,
   ⟨0x1D624, 0x1D646, "c d e f g h i j k l m n o p q r s t u v w x y z a b c d e f g h i j k"⟩,
   ⟨0x1D647, 0x1D669, "l m n o p q r s t u v w x y z a b c d e f g h i j k l m n o p q r s t"⟩,
   ⟨0x1D66A, 0x1D68C, "u v w x y z a b c d e f g h i j k l m n o p q r s t u v w x y z a b c"⟩,
   ⟨0x1D68D, 0x1D6A5, "d e f g h i j k l m n o p q r s t u v w x y z ı ȷ"⟩,
   ⟨0x1D6A8, 0x1D6CA, "α β γ δ ε ζ η θ ι κ λ μ ν ξ ο π ρ θ σ τ υ φ χ ψ ω ∇ α β γ δ ε ζ η θ ι"⟩,
   ⟨0x1D6CB, 0x1D6ED, "κ λ μ ν ξ ο π ρ σ σ τ υ φ χ ψ ω ∂ ε θ κ φ ρ π α β γ δ ε ζ η θ ι κ λ μ"⟩,
   ⟨0x1D6EE, 0x1D710, "ν ξ ο π ρ θ σ τ υ φ χ ψ ω ∇ α β γ δ ε ζ η θ ι κ λ μ ν ξ ο π ρ σ σ τ υ"⟩,
   ⟨0x1D711, 0x1D733, "φ χ ψ ω ∂ ε θ κ φ ρ π α β γ δ ε ζ η θ ι κ λ μ ν ξ ο π ρ θ σ τ υ φ χ ψ"⟩,
   ⟨0x1D734, 0x1D756, "ω ∇ α β γ δ ε ζ η θ ι κ λ μ ν ξ ο π ρ σ σ τ υ φ χ ψ ω ∂ ε θ κ φ ρ π α"⟩,
   ⟨0x1D757, 0x1D779, "β γ δ ε ζ η θ ι κ λ μ ν ξ ο π ρ θ σ τ υ φ χ ψ ω ∇ α β γ δ ε ζ η θ ι κ"⟩,
   ⟨0x1D77A, 0x1D79C, "λ μ ν ξ ο π ρ σ σ τ υ φ χ ψ ω ∂ ε θ κ φ ρ π α β γ δ ε ζ η θ ι κ λ μ ν"⟩,
   ⟨0x1D79D, 0x1D7BF, "ξ ο π ρ θ σ τ υ φ χ ψ ω ∇ α β γ δ ε ζ η θ ι κ λ μ ν ξ ο π ρ σ σ τ υ φ"⟩,
   ⟨0x1D7C0, 0x1D7CB, "χ ψ ω ∂ ε θ κ φ ρ π ϝ ϝ"⟩,
   ⟨0x1D7CE, 0x1D7F0, "0 1 2 3 4 5 6 7 8 9 0 1 2 3 4 5 6 7 8 9 0 1 2 3 4 5 6 7 8 9 0 1 2 3 4"⟩,
   ⟨0x1D7F1, 0x1D7FF, "5 6 7 8 9 0 1 2 3 4 5 6 7 8 9"⟩,
   ⟨0x1E030, 0x1E052, "а б в г д е ж з и к л м о п р с т у ф х ц ч ш ы э ю ꚉ ә і ј ө ү ӏ а б"⟩,
   ⟨0x1E053, 0x1E06D, "в г д е ж з и к л о п с у ф х ц ч ш ъ ы ґ і ѕ џ ҫ ꙑ ұ"⟩,
   ⟨0x1EE00, 0x1EE03, "ا ب ج د"⟩,
   ⟨0x1EE05, 0x1EE1F, "و ز ح ط ي ك ل م ن س ع ف ص ق ر ش ت ث خ ذ ض ظ غ ٮ ں ڡ ٯ"⟩,
   ⟨0x1EE21, 0x1EE22, "ب ج"⟩, ⟨0x1EE24, 0x1EE24, "ه"⟩, ⟨0x1EE27, 0x1EE27, "ح"⟩,
   ⟨0x1EE29, 0x1EE32, "ي ك ل م ن س ع ف ص ق"⟩, ⟨0x1EE34, 0x1EE37, "ش ت ث خ"⟩,
   ⟨0x1EE39, 0x1EE39, "ض"⟩, ⟨0x1EE3B, 0x1EE3B, "غ"⟩, ⟨0x1EE42, 0x1EE42, "ج"⟩,
   ⟨0x1EE47, 0x1EE47, "ح"⟩, ⟨0x1EE49, 0x1EE49, "ي"⟩, ⟨0x1EE4B, 0x1EE4B, "ل"⟩,
   ⟨0x1EE4D, 0x1EE4F, "ن س ع"⟩, ⟨0x1EE51, 0x1EE52, "ص ق"⟩, ⟨0x1EE54, 0x1EE54, "ش"⟩,
   ⟨0x1EE57, 0x1EE57, "خ"⟩, ⟨0x1EE59, 0x1EE59, "ض"⟩, ⟨0x1EE5B, 0x1EE5B, "غ"⟩,
   ⟨0x1EE5D, 0x1EE5D, "ں"⟩, ⟨0x1EE5F, 0x1EE5F, "ٯ"⟩, ⟨0x1EE61, 0x1EE62, "ب ج"⟩,
   ⟨0x1EE64, 0x1EE64, "ه"⟩, ⟨0x1EE67, 0x1EE6A, "ح ط ي ك"⟩, ⟨0x1EE6C, 0x1EE72, "م ن س ع ف ص ق"⟩,
   ⟨0x1EE74, 0x1EE77, "ش ت ث خ"⟩, ⟨0x1EE79, 0x1EE7C, "ض ظ غ ٮ"⟩, ⟨0x1EE7E, 0x1EE7E, "ڡ"⟩,
   ⟨0x1EE80, 0x1EE89, "ا ب ج د ه و ز ح ط ي"⟩,
   ⟨0x1EE8B, 0x1EE9B, "ل م ن س ع ف ص ق ر ش ت ث خ ذ ض ظ غ"⟩, ⟨0x1EEA1, 0x1EEA3, "ب ج د"⟩,
   ⟨0x1EEA5, 0x1EEA9, "و ز ح ط ي"⟩, ⟨0x1EEAB, 0x1EEBB, "ل م ن س ع ف ص ق ر ش ت ث خ ذ ض ظ غ"⟩,
   ⟨0x1F101, 0x1F10A, "0, 1, 2, 3, 4, 5, 6, 7, 8, 9,"⟩,
   ⟨0x1F110, 0x1F120, "(a) (b) (c) (d) (e) (f) (g) (h) (i) (j) (k) (l) (m) (n) (o) (p) (q)"⟩,
   ⟨0x1F121, 0x1F12E, "(r) (s) (t) (u) (v) (w) (x) (y) (z) 〔s〕 c r cd wz"⟩,
   ⟨0x1F130, 0x1F14F, "a b c d e f g h i j k l m n o p q r s t u v w x y z hv mv sd ss ppv wc"⟩,
   ⟨0x1F16A, 0x1F16C, "mc md mr"⟩, ⟨0x1F190, 0x1F190, "dj"⟩, ⟨0x1F200, 0x1F202, "ほか ココ サ"⟩,
   ⟨0x1F210, 0x1F232, "手 字 双 デ 二 多 解 天 交 映 無 料 前 後 再 新 初 終 生 販 声 吹 演 投 捕 一 三 遊 左 中 右 指 走 打 禁"⟩,
   ⟨0x1F233, 0x1F23B, "空 合 満 有 月 申 割 営 配"⟩,
   ⟨0x1F240, 0x1F248, "〔本〕 〔三〕 〔二〕 〔安〕 〔点〕 〔打〕 〔盗〕 〔勝〕 〔敗〕"⟩, ⟨0x1F250, 0x1F251, "得 可"⟩,
   ⟨0x1FBF0, 0x1FBF9, "0 1 2 3 4 5 6 7 8 9"⟩,
   ⟨0x2F800, 0x2F822, "丽 丸 乁 𠄢 你 侮 侻 倂 偺 備 僧 像 㒞 𠘺 免 兔 兤 具 𠔜 㒹 內 再 𠕋 冗 冤 仌 冬 况 𩇟 凵 刃 㓟 刻 剆 割"⟩,
   ⟨0x2F823, 0x2F845, "剷 㔕 勇 勉 勤 勺 包 匆 北 卉 卑 博 即 卽 卿 卿 卿 𠨬 灰 及 叟 𠭣 叫 叱 吆 咞 吸 呈 周 咢 哶 唐 啓 啣 善"⟩,
   ⟨0x2F846, 0x2F868, "善 喙 喫 喳 嗂 圖 嘆 圗 噑 噴 切 壮 城 埴 堍 型 堲 報 墬 𡓤 売 壷 夆 多 夢 奢 𡚨 𡛪 姬 娛 娧 姘 婦 㛮 㛼"⟩,
   ⟨0x2F869, 0x2F88B, "嬈 嬾 嬾 𡧈 寃 寘 寧 寳 𡬘 寿 将 当 尢 㞁 屠 屮 峀 岍 𡷤 嵃 𡷦 嵮 嵫 嵼 巡 巢 㠯 巽 帨 帽 幩 㡢 𢆃 㡼 庰"⟩,
   ⟨0x2F88C, 0x2F8AE, "庳 庶 廊 𪎒 廾 𢌱 𢌱 舁 弢 弢 㣇 𣊸 𦇚 形 彫 㣣 徚 忍 志 忹 悁 㤺 㤜 悔 𢛔 惇 慈 慌 慎 慌 慺 憎 憲 憤 憯"⟩,
   ⟨0x2F8AF, 0x2F8D1, "懞 懲 懶 成 戛 扝 抱 拔 捐 𢬌 挽 拼 捨 掃 揤 𢯱 搢 揅 掩 㨮 摩 摾 撝 摷 㩬 敏 敬 𣀊 旣 書 晉 㬙 暑 㬈 㫤"⟩,
   ⟨0x2F8D2, 0x2F8F4, "冒 冕 最 暜 肭 䏙 朗 望 朡 杞 杓 𣏃 㭉 柺 枅 桒 梅 𣑭 梎 栟 椔 㮝 楂 榣 槪 檨 𣚣 櫛 㰘 次 𣢧 歔 㱎 歲 殟"⟩,
   ⟨0x2F8F5, 0x2F917, "殺 殻 𣪍 𡴋 𣫺 汎 𣲼 沿 泍 汧 洖 派 海 流 浩 浸 涅 𣴞 洴 港 湮 㴳 滋 滇 𣻑 淹 潮 𣽞 𣾎 濆 瀹 瀞 瀛 㶖 灊"⟩,
   ⟨0x2F918, 0x2F93A, "災 灷 炭 𠔥 煅 𤉣 熜 𤎫 爨 爵 牐 𤘈 犀 犕 𤜵 𤠔 獺 王 㺬 玥 㺸 㺸 瑇 瑜 瑱 璅 瓊 㼛 甤 𤰶 甾 𤲒 異 𢆟 瘐"⟩,
   ⟨0x2F93B, 0x2F95D, "𤾡 𤾸 𥁄 㿼 䀈 直 𥃳 𥃲 𥄙 𥄳 眞 真 真 睊 䀹 瞋 䁆 䂖 𥐝 硎 碌 磌 䃣 𥘦 祖 𥚚 𥛅 福 秫 䄯 穀 穊 穏 𥥼 𥪧"⟩,
   ⟨0x2F95E, 0x2F980, "𥪧 竮 䈂 𥮫 篆 築 䈧 𥲀 糒 䊠 糨 糣 紀 𥾆 絣 䌁 緇 縂 繅 䌴 𦈨 𦉇 䍙 𦋙 罺 𦌾 羕 翺 者 𦓚 𦔣 聠 𦖨 聰 𣍟"⟩,
   ⟨0x2F981, 0x2F9A3, "䏕 育 脃 䐋 脾 媵 𦞧 𦞵 𣎓 𣎜 舁 舄 辞 䑫 芑 芋 芝 劳 花 芳 芽 苦 𦬼 若 茝 荣 莭 茣 莽 菧 著 荓 菊 菌 菜"⟩,
   ⟨0x2F9A4, 0x2F9C6, "𦰶 𦵫 𦳕 䔫 蓱 蓳 蔖 𧏊 蕤 𦼬 䕝 䕡 𦾱 𧃒 䕫 虐 虜 虧 虩 蚩 蚈 蜎 蛢 蝹 蜨 蝫 螆 䗗 蟡 蠁 䗹 衠 衣 𧙧 裗"⟩,
   ⟨0x2F9C7, 0x2F9E9, "裞 䘵 裺 㒻 𧢮 𧥦 䚾 䛇 誠 諭 變 豕 𧲨 貫 賁 贛 起 𧼯 𠠄 跋 趼 跰 𠣞 軔 輸 𨗒 𨗭 邔 郱 鄑 𨜮 鄛 鈸 鋗 鋘"⟩,
   ⟨0x2F9EA, 0x2FA0C, "鉼 鏹 鐕 𨯺 開 䦕 閷 𨵷 䧦 雃 嶲 霣 𩅅 𩈚 䩮 䩶 韠 𩐊 䪲 𩒖 頋 頋 頩 𩖶 飢 䬳 餩 馧 駂 駾 䯎 𩬰 鬒 鱀 鳽"⟩,
   ⟨0x2FA0D, 0x2FA1D, "䳎 䳭 鵧 𪃎 䳸 𪄅 𪈎 𪊑 麻 䵖 黹 黾 鼅 鼏 鼖 鼻 𪘀"⟩]

/-- The spelling of a character according to the rows. -/
def rowSpelling? (c : Char) : Option (List Char) :=
  (spellingRows.find? fun row => row.first ≤ c.toNat && c.toNat ≤ row.last).bind fun row =>
    (row.spellings.splitOn " ")[c.toNat - row.first]?.map fun spelling =>
      spelling.toList.map fun c => if c = '␣' then ' ' else c

/-- The characters that do not count. -/
def ignoredRanges : Text.Ranges :=
  [(0xAD, 0xAD), (0x34F, 0x34F), (0x115F, 0x1160), (0x17B4, 0x17B5), (0x180B, 0x180F),
   (0x200B, 0x200B), (0x2060, 0x2064), (0x206A, 0x206F), (0x3164, 0x3164), (0xFE00, 0xFE0F),
   (0xFEFF, 0xFEFF), (0xFFA0, 0xFFA0), (0x1BCA0, 0x1BCA3), (0x1D173, 0x1D17A), (0xE0100, 0xE01EF)]

/-- The characters with a visible form that are refused: those that contain a full stop, those that
describe or replace others. -/
def refusedRanges : Text.Ranges :=
  [(0x2024, 0x2026), (0x2488, 0x249B), (0x2FF0, 0x2FFF), (0x31EF, 0x31EF), (0x33C2, 0x33C2),
   (0x33C7, 0x33C7), (0x33D8, 0x33D8), (0xFE12, 0xFE12), (0xFE19, 0xFE19), (0xFE30, 0xFE30),
   (0xFE52, 0xFE52), (0xFFFC, 0xFFFD), (0x1F100, 0x1F100)]

/-- Whether a character is refused. Joiners are the only ones without a visible form that
are not. -/
def isRefused (c : Char) : Bool :=
  if c.toNat < 0x80 || c = Text.joiner || c = Text.nonJoiner then false
  else Text.invisibleRanges.has c || refusedRanges.has c

/-- The small letter of a character. The capital letters of Cherokee are the ones that count. -/
def smallLetter (c : Char) : Char :=
  if 0x13A0 ≤ c.toNat && c.toNat ≤ 0x13F5 then c else Text.lowercaseChar c

/-- The spelling of a character. -/
def spelling? (c : Char) : Option (List Char) :=
  if c.toNat < 0x80 then some [c.toLower]
  else if ignoredRanges.has c then some []
  else
    match rowSpelling? c with
    | some spelling => some spelling
    | none => if isRefused c then none else some [smallLetter c]

/-- The spelling of a domain name, in composed form. -/
def spellName? (name : List Char) : Option (List Char) :=
  ((Text.decompose name).mapM spelling?).map fun spellings => Text.compose spellings.flatten

end Workflow.Url
