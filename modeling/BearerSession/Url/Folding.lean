import BearerSession.Text.Characters

namespace BearerSession.Folding

/-- Code points from a first to a last one by a step, whose images follow one another alike. -/
structure Run where
  first : Nat
  last : Nat
  step : Nat
  image : Nat

/-- Characters that become single ones, in runs. -/
def runs : List Run := [
    ⟨0x246, 0x24E, 2, 0x247⟩, ⟨0x391, 0x3A1, 1, 0x3B1⟩, ⟨0x3A3, 0x3A9, 1, 0x3C3⟩,
    ⟨0x3D8, 0x3EE, 2, 0x3D9⟩, ⟨0x402, 0x40A, 2, 0x452⟩, ⟨0x410, 0x42E, 2, 0x430⟩,
    ⟨0x411, 0x417, 2, 0x431⟩, ⟨0x41B, 0x42F, 2, 0x43B⟩, ⟨0x460, 0x474, 2, 0x461⟩,
    ⟨0x478, 0x480, 2, 0x479⟩, ⟨0x48A, 0x4BE, 2, 0x48B⟩, ⟨0x4C3, 0x4CD, 2, 0x4C4⟩,
    ⟨0x4FA, 0x52E, 2, 0x4FB⟩, ⟨0x531, 0x556, 1, 0x561⟩, ⟨0x10A0, 0x10C5, 1, 0x2D00⟩,
    ⟨0x13F8, 0x13FD, 1, 0x13F0⟩, ⟨0x1C90, 0x1CBA, 1, 0x10D0⟩, ⟨0x1D31, 0x1D39, 2, 0x65⟩,
    ⟨0x1D34, 0x1D3A, 2, 0x68⟩, ⟨0x1DAE, 0x1DB1, 1, 0x272⟩, ⟨0x2074, 0x2079, 1, 0x34⟩,
    ⟨0x2080, 0x2089, 1, 0x30⟩, ⟨0x2096, 0x2099, 1, 0x6B⟩, ⟨0x2135, 0x2138, 1, 0x5D0⟩,
    ⟨0x2460, 0x2468, 1, 0x31⟩, ⟨0x24B6, 0x24CF, 1, 0x61⟩, ⟨0x24D0, 0x24E9, 1, 0x61⟩,
    ⟨0x2C00, 0x2C2F, 1, 0x2C30⟩, ⟨0x2C80, 0x2CE2, 2, 0x2C81⟩, ⟨0x313A, 0x313F, 1, 0x11B0⟩,
    ⟨0x3145, 0x314E, 1, 0x1109⟩, ⟨0x314F, 0x3163, 1, 0x1161⟩, ⟨0x3178, 0x317C, 1, 0x112B⟩,
    ⟨0x3269, 0x326D, 1, 0x110E⟩, ⟨0x32E4, 0x32E9, 1, 0x30CA⟩, ⟨0x32EE, 0x32F2, 1, 0x30DE⟩,
    ⟨0x32F5, 0x32FA, 1, 0x30E8⟩, ⟨0x32FB, 0x32FE, 1, 0x30EF⟩, ⟨0xA640, 0xA66C, 2, 0xA641⟩,
    ⟨0xA680, 0xA69A, 2, 0xA681⟩, ⟨0xA722, 0xA72E, 2, 0xA723⟩, ⟨0xA732, 0xA76E, 2, 0xA733⟩,
    ⟨0xA77E, 0xA786, 2, 0xA77F⟩, ⟨0xA796, 0xA7A8, 2, 0xA797⟩, ⟨0xA7B4, 0xA7C2, 2, 0xA7B5⟩,
    ⟨0xA7CC, 0xA7DA, 2, 0xA7CD⟩, ⟨0xAB70, 0xABBF, 1, 0x13A0⟩, ⟨0xFE41, 0xFE44, 1, 0x300C⟩,
    ⟨0xFF01, 0xFF20, 1, 0x21⟩, ⟨0xFF21, 0xFF3A, 1, 0x61⟩, ⟨0xFF3B, 0xFF5E, 1, 0x5B⟩,
    ⟨0xFF85, 0xFF8A, 1, 0x30CA⟩, ⟨0xFF8F, 0xFF93, 1, 0x30DE⟩, ⟨0xFF96, 0xFF9B, 1, 0x30E8⟩,
    ⟨0xFFAA, 0xFFAF, 1, 0x11B0⟩, ⟨0xFFB5, 0xFFBE, 1, 0x1109⟩, ⟨0xFFC2, 0xFFC7, 1, 0x1161⟩,
    ⟨0xFFCA, 0xFFCF, 1, 0x1167⟩, ⟨0xFFD2, 0xFFD7, 1, 0x116D⟩, ⟨0xFFE9, 0xFFEC, 1, 0x2190⟩,
    ⟨0x10400, 0x10427, 1, 0x10428⟩, ⟨0x104B0, 0x104D3, 1, 0x104D8⟩,
    ⟨0x10570, 0x10594, 2, 0x10597⟩, ⟨0x10571, 0x10579, 2, 0x10598⟩,
    ⟨0x1057D, 0x10589, 2, 0x105A4⟩, ⟨0x10C80, 0x10CB2, 1, 0x10CC0⟩,
    ⟨0x10D50, 0x10D65, 1, 0x10D70⟩, ⟨0x118A0, 0x118BF, 1, 0x118C0⟩,
    ⟨0x16E40, 0x16E5F, 1, 0x16E60⟩, ⟨0x16EA0, 0x16EB8, 1, 0x16EBB⟩, ⟨0x1CCD6, 0x1CCEF, 1, 0x61⟩,
    ⟨0x1CCF0, 0x1CCF9, 1, 0x30⟩, ⟨0x1D400, 0x1D419, 1, 0x61⟩, ⟨0x1D41A, 0x1D433, 1, 0x61⟩,
    ⟨0x1D434, 0x1D44D, 1, 0x61⟩, ⟨0x1D44E, 0x1D466, 2, 0x61⟩, ⟨0x1D457, 0x1D467, 2, 0x6A⟩,
    ⟨0x1D468, 0x1D481, 1, 0x61⟩, ⟨0x1D482, 0x1D49B, 1, 0x61⟩, ⟨0x1D4A9, 0x1D4AC, 1, 0x6E⟩,
    ⟨0x1D4AE, 0x1D4B5, 1, 0x73⟩, ⟨0x1D4B6, 0x1D4B9, 1, 0x61⟩, ⟨0x1D4BB, 0x1D4CF, 2, 0x66⟩,
    ⟨0x1D4C6, 0x1D4CE, 2, 0x71⟩, ⟨0x1D4D0, 0x1D4E9, 1, 0x61⟩, ⟨0x1D4EA, 0x1D503, 1, 0x61⟩,
    ⟨0x1D507, 0x1D50A, 1, 0x64⟩, ⟨0x1D50D, 0x1D514, 1, 0x6A⟩, ⟨0x1D516, 0x1D51C, 1, 0x73⟩,
    ⟨0x1D51E, 0x1D537, 1, 0x61⟩, ⟨0x1D53B, 0x1D53E, 1, 0x64⟩, ⟨0x1D540, 0x1D544, 1, 0x69⟩,
    ⟨0x1D54A, 0x1D550, 1, 0x73⟩, ⟨0x1D552, 0x1D56B, 1, 0x61⟩, ⟨0x1D56C, 0x1D585, 1, 0x61⟩,
    ⟨0x1D586, 0x1D59F, 1, 0x61⟩, ⟨0x1D5A0, 0x1D5B9, 1, 0x61⟩, ⟨0x1D5BA, 0x1D5D3, 1, 0x61⟩,
    ⟨0x1D5D4, 0x1D5ED, 1, 0x61⟩, ⟨0x1D5EE, 0x1D607, 1, 0x61⟩, ⟨0x1D608, 0x1D621, 1, 0x61⟩,
    ⟨0x1D622, 0x1D63B, 1, 0x61⟩, ⟨0x1D63C, 0x1D655, 1, 0x61⟩, ⟨0x1D656, 0x1D66F, 1, 0x61⟩,
    ⟨0x1D670, 0x1D689, 1, 0x61⟩, ⟨0x1D68A, 0x1D6A3, 1, 0x61⟩, ⟨0x1D6A8, 0x1D6B8, 1, 0x3B1⟩,
    ⟨0x1D6BA, 0x1D6C0, 1, 0x3C3⟩, ⟨0x1D6C2, 0x1D6D2, 1, 0x3B1⟩, ⟨0x1D6D4, 0x1D6DA, 1, 0x3C3⟩,
    ⟨0x1D6E2, 0x1D6F2, 1, 0x3B1⟩, ⟨0x1D6F4, 0x1D6FA, 1, 0x3C3⟩, ⟨0x1D6FC, 0x1D70C, 1, 0x3B1⟩,
    ⟨0x1D70E, 0x1D714, 1, 0x3C3⟩, ⟨0x1D71C, 0x1D72C, 1, 0x3B1⟩, ⟨0x1D72E, 0x1D734, 1, 0x3C3⟩,
    ⟨0x1D736, 0x1D746, 1, 0x3B1⟩, ⟨0x1D748, 0x1D74E, 1, 0x3C3⟩, ⟨0x1D756, 0x1D766, 1, 0x3B1⟩,
    ⟨0x1D768, 0x1D76E, 1, 0x3C3⟩, ⟨0x1D770, 0x1D780, 1, 0x3B1⟩, ⟨0x1D782, 0x1D788, 1, 0x3C3⟩,
    ⟨0x1D790, 0x1D7A0, 1, 0x3B1⟩, ⟨0x1D7A2, 0x1D7A8, 1, 0x3C3⟩, ⟨0x1D7AA, 0x1D7BA, 1, 0x3B1⟩,
    ⟨0x1D7BC, 0x1D7C2, 1, 0x3C3⟩, ⟨0x1D7CE, 0x1D7D7, 1, 0x30⟩, ⟨0x1D7D8, 0x1D7E1, 1, 0x30⟩,
    ⟨0x1D7E2, 0x1D7EB, 1, 0x30⟩, ⟨0x1D7EC, 0x1D7F5, 1, 0x30⟩, ⟨0x1D7F6, 0x1D7FF, 1, 0x30⟩,
    ⟨0x1E030, 0x1E038, 1, 0x430⟩, ⟨0x1E03C, 0x1E046, 1, 0x43E⟩, ⟨0x1E051, 0x1E059, 1, 0x430⟩,
    ⟨0x1E05F, 0x1E064, 1, 0x443⟩, ⟨0x1E900, 0x1E921, 1, 0x1E922⟩, ⟨0x1EE0A, 0x1EE0D, 1, 0x643⟩,
    ⟨0x1EE2A, 0x1EE2D, 1, 0x643⟩, ⟨0x1F130, 0x1F149, 1, 0x61⟩, ⟨0x1FBF0, 0x1FBF9, 1, 0x30⟩
  ]

/-- Behind a code point stand the words that it and those after it become. -/
def words : List (Nat × String) := [
    (0xAA, "a"),
    (0xB2, "2 3"),
    (0xB5, "μ"),
    (0xB9, "1 o"),
    (0xBC, "1⁄4 1⁄2 3⁄4"),
    (0xC6, "æ"),
    (0xD0, "ð"),
    (0xD8, "ø"),
    (0xDE, "þ"),
    (0x110, "đ"),
    (0x126, "ħ"),
    (0x132, "ij ij"),
    (0x13F, "l· l· ł"),
    (0x149, "ʼn ŋ"),
    (0x152, "œ"),
    (0x166, "ŧ"),
    (0x17F, "s"),
    (0x181, "ɓ ƃ"),
    (0x184, "ƅ"),
    (0x186, "ɔ ƈ"),
    (0x189, "ɖ ɗ ƌ"),
    (0x18E, "ǝ ə ɛ ƒ"),
    (0x193, "ɠ ɣ"),
    (0x196, "ɩ ɨ ƙ"),
    (0x19C, "ɯ ɲ"),
    (0x19F, "ɵ"),
    (0x1A2, "ƣ"),
    (0x1A4, "ƥ"),
    (0x1A6, "ʀ ƨ"),
    (0x1A9, "ʃ"),
    (0x1AC, "ƭ"),
    (0x1AE, "ʈ"),
    (0x1B1, "ʊ ʋ ƴ"),
    (0x1B5, "ƶ"),
    (0x1B7, "ʒ ƹ"),
    (0x1BC, "ƽ"),
    (0x1C4, "dž dž dž lj lj lj nj nj nj"),
    (0x1E4, "ǥ"),
    (0x1F1, "dz dz dz"),
    (0x1F6, "ƕ ƿ"),
    (0x21C, "ȝ"),
    (0x220, "ƞ"),
    (0x222, "ȣ"),
    (0x224, "ȥ"),
    (0x23A, "ⱥ ȼ"),
    (0x23D, "ƚ ⱦ"),
    (0x241, "ɂ"),
    (0x243, "ƀ ʉ ʌ"),
    (0x2B0, "h ɦ j r ɹ ɻ ʁ w y"),
    (0x2E0, "ɣ l s x ʕ"),
    (0x345, "ι"),
    (0x370, "ͱ"),
    (0x372, "ͳ"),
    (0x376, "ͷ"),
    (0x37F, "ϳ"),
    (0x3CF, "ϗ β θ υ"),
    (0x3D5, "φ π"),
    (0x3F0, "κ ρ σ"),
    (0x3F4, "θ ε"),
    (0x3F7, "ϸ"),
    (0x3F9, "σ ϻ"),
    (0x3FD, "ͻ ͼ ͽ"),
    (0x405, "ѕ"),
    (0x409, "љ"),
    (0x40B, "ћ"),
    (0x40F, "џ"),
    (0x4C0, "ӏ"),
    (0x4D4, "ӕ"),
    (0x4D8, "ә"),
    (0x4E0, "ӡ"),
    (0x4E8, "ө"),
    (0x4F6, "ӷ"),
    (0x587, "եւ"),
    (0x675, "اٴ وٴ ۇٴ يٴ"),
    (0xE33, "ํา"),
    (0xEB3, "ໍາ"),
    (0xEDC, "ຫນ ຫມ"),
    (0xF0C, "་"),
    (0xF77, "ྲཱྀ"),
    (0xF79, "ླཱྀ"),
    (0x10C7, "ⴧ"),
    (0x10CD, "ⴭ"),
    (0x10FC, "ნ"),
    (0x1C80, "в д о с т т ъ ѣ ꙋ ᲊ"),
    (0x1CBD, "ჽ ჾ ჿ"),
    (0x1D2C, "a æ b"),
    (0x1D30, "d"),
    (0x1D32, "ǝ"),
    (0x1D3C, "o ȣ p r t u w a ɐ ɑ ᴂ b d e ə ɛ ɜ g"),
    (0x1D4F, "k m ŋ o ɔ ᴖ ᴗ p t u ᴝ ɯ v ᴥ β γ δ φ χ i r u v β γ ρ φ χ"),
    (0x1D78, "н"),
    (0x1D9B, "ɒ c ɕ ð ɜ f ɟ ɡ ɥ ɨ ɩ ɪ ᵻ ʝ ɭ ᶅ ʟ ɱ ɰ"),
    (0x1DB2, "ɸ ʂ ʃ ƫ ʉ ʊ ᴜ ʋ ʌ z ʐ ʑ ʒ θ"),
    (0x1E9A, "aʾ"),
    (0x1E9E, "ß"),
    (0x1EFA, "ỻ"),
    (0x1EFC, "ỽ"),
    (0x1EFE, "ỿ"),
    (0x2011, "‐"),
    (0x2033, "′′ ′′′"),
    (0x2036, "‵‵ ‵‵‵"),
    (0x203C, "!!"),
    (0x2057, "′′′′"),
    (0x2070, "0 i"),
    (0x207A, "+ − = ( ) n"),
    (0x208A, "+ − = ( )"),
    (0x2090, "a e o x ə h"),
    (0x209A, "p s t"),
    (0x20A8, "rs"),
    (0x2102, "c °c"),
    (0x2107, "ɛ"),
    (0x2109, "°f g h h h h ħ i i l l"),
    (0x2115, "n no"),
    (0x2119, "p q r r r"),
    (0x2120, "sm tel tm"),
    (0x2124, "z"),
    (0x2128, "z"),
    (0x212C, "b c"),
    (0x212F, "e e f ⅎ m o"),
    (0x2139, "i"),
    (0x213B, "fax π γ γ π ∑"),
    (0x2145, "d d e i j"),
    (0x2150, "1⁄7 1⁄9 1⁄10 1⁄3 2⁄3 1⁄5 2⁄5 3⁄5 4⁄5 1⁄6 5⁄6 1⁄8 3⁄8 5⁄8 7⁄8"),
    (0x215F, "1⁄ i ii iii iv v vi vii viii ix x xi xii l c d m i ii iii iv"),
    (0x2174, "v vi vii viii ix x xi xii l c d m"),
    (0x2183, "ↄ"),
    (0x2189, "0⁄3"),
    (0x222C, "∫∫ ∫∫∫"),
    (0x222F, "∮∮ ∮∮∮"),
    (0x2469, "10 11 12 13 14 15 16 17 18 19 20 (1) (2) (3) (4) (5) (6) (7)"),
    (0x247B, "(8) (9) (10) (11) (12) (13) (14) (15) (16) (17) (18) (19) (20)"),
    (0x249C, "(a) (b) (c) (d) (e) (f) (g) (h) (i) (j) (k) (l) (m) (n) (o) (p)"),
    (0x24AC, "(q) (r) (s) (t) (u) (v) (w) (x) (y) (z)"),
    (0x24EA, "0"),
    (0x2A0C, "∫∫∫∫"),
    (0x2A75, "== ==="),
    (0x2C60, "ⱡ"),
    (0x2C62, "ɫ ᵽ ɽ"),
    (0x2C67, "ⱨ"),
    (0x2C69, "ⱪ"),
    (0x2C6B, "ⱬ"),
    (0x2C6D, "ɑ ɱ ɐ ɒ"),
    (0x2C72, "ⱳ"),
    (0x2C75, "ⱶ"),
    (0x2C7C, "j v ȿ ɀ"),
    (0x2CEB, "ⳬ"),
    (0x2CED, "ⳮ"),
    (0x2CF2, "ⳳ"),
    (0x2D6F, "ⵡ"),
    (0x2E9F, "母"),
    (0x2EF3, "龟"),
    (0x2F00, "一 丨 丶 丿 乙 亅 二 亠 人 儿 入 八 冂 冖 冫 几 凵 刀 力 勹 匕 匚 匸 十 卜 卩 厂 厶 又 口 囗"),
    (0x2F1F, "土 士 夂 夊 夕 大 女 子 宀 寸 小 尢 尸 屮 山 巛 工 己 巾 干 幺 广 廴 廾 弋 弓 彐 彡 彳 心 戈"),
    (0x2F3E, "戶 手 支 攴 文 斗 斤 方 无 日 曰 月 木 欠 止 歹 殳 毋 比 毛 氏 气 水 火 爪 父 爻 爿 片 牙 牛"),
    (0x2F5D, "犬 玄 玉 瓜 瓦 甘 生 用 田 疋 疒 癶 白 皮 皿 目 矛 矢 石 示 禸 禾 穴 立 竹 米 糸 缶 网 羊 羽"),
    (0x2F7C, "老 而 耒 耳 聿 肉 臣 自 至 臼 舌 舛 舟 艮 色 艸 虍 虫 血 行 衣 襾 見 角 言 谷 豆 豕 豸 貝 赤"),
    (0x2F9B, "走 足 身 車 辛 辰 辵 邑 酉 釆 里 金 長 門 阜 隶 隹 雨 靑 非 面 革 韋 韭 音 頁 風 飛 食 首 香"),
    (0x2FBA, "馬 骨 高 髟 鬥 鬯 鬲 鬼 魚 鳥 鹵 鹿 麥 麻 黃 黍 黑 黹 黽 鼎 鼓 鼠 鼻 齊 齒 龍 龜 龠"),
    (0x3002, "."),
    (0x3036, "〒"),
    (0x3038, "十 卄 卅"),
    (0x309F, "より"),
    (0x30FF, "コト"),
    (0x3131, "ᄀ ᄁ ᆪ ᄂ ᆬ ᆭ ᄃ ᄄ ᄅ"),
    (0x3140, "ᄚ ᄆ ᄇ ᄈ ᄡ"),
    (0x3165, "ᄔ ᄕ ᇇ ᇈ ᇌ ᇎ ᇓ ᇗ ᇙ ᄜ ᇝ ᇟ ᄝ ᄞ ᄠ ᄢ ᄣ ᄧ ᄩ"),
    (0x317D, "ᄲ ᄶ ᅀ ᅇ ᅌ ᇱ ᇲ ᅗ ᅘ ᅙ ᆄ ᆅ ᆈ ᆑ ᆒ ᆔ ᆞ ᆡ"),
    (0x3192, "一 二 三 四 上 中 下 甲 乙 丙 丁 天 地 人"),
    (0x3200, "(ᄀ) (ᄂ) (ᄃ) (ᄅ) (ᄆ) (ᄇ) (ᄉ) (ᄋ) (ᄌ) (ᄎ) (ᄏ) (ᄐ) (ᄑ) (ᄒ) (가) (나)"),
    (0x3210, "(다) (라) (마) (바) (사) (아) (자) (차) (카) (타) (파) (하) (주) (오전) (오후)"),
    (0x3220, "(一) (二) (三) (四) (五) (六) (七) (八) (九) (十) (月) (火) (水) (木) (金) (土)"),
    (0x3230, "(日) (株) (有) (社) (名) (特) (財) (祝) (労) (代) (呼) (学) (監) (企) (資) (協)"),
    (0x3240, "(祭) (休) (自) (至) 問 幼 文 箏"),
    (0x3250, "pte 21 22 23 24 25 26 27 28 29 30 31 32 33 34 35 ᄀ ᄂ ᄃ ᄅ ᄆ ᄇ"),
    (0x3266, "ᄉ ᄋ ᄌ"),
    (0x326E, "가 나 다 라 마 바 사 아 자 차 카 타 파 하 참고 주의 우"),
    (0x3280, "一 二 三 四 五 六 七 八 九 十 月 火 水 木 金 土 日 株 有 社 名 特 財 祝 労 秘 男 女 適 優 印"),
    (0x329F, "注 項 休 写 正 上 中 下 左 右 医 宗 学 監 企 資 協 夜 36 37 38 39 40 41 42 43 44"),
    (0x32BA, "45 46 47 48 49 50 1月 2月 3月 4月 5月 6月 7月 8月 9月 10月 11月 12月 hg erg"),
    (0x32CE, "ev ltd ア イ ウ エ オ カ キ ク ケ コ サ シ ス セ ソ タ チ ツ テ ト"),
    (0x32EA, "ヒ フ ヘ ホ"),
    (0x32F3, "ヤ ユ"),
    (0x32FF, "令和 アパート アルファ アンペア アール イニング インチ ウォン エスクード エーカー オンス オーム カイリ カラット"),
    (0x330D, "カロリー ガロン ガンマ ギガ ギニー キュリー ギルダー キロ キログラム キロメートル キロワット グラム グラムトン"),
    (0x331A, "クルゼイロ クローネ ケース コルナ コーポ サイクル サンチーム シリング センチ セント ダース デシ ドル トン ナノ"),
    (0x3329, "ノット ハイツ パーセント パーツ バーレル ピアストル ピクル ピコ ビル ファラッド フィート ブッシェル フラン ヘクタール"),
    (0x3337, "ペソ ペニヒ ヘルツ ペンス ページ ベータ ポイント ボルト ホン ポンド ホール ホーン マイクロ マイル マッハ マルク"),
    (0x3347, "マンション ミクロン ミリ ミリバール メガ メガトン メートル ヤード ヤール ユアン リットル リラ ルピー ルーブル"),
    (0x3355, "レム レントゲン ワット 0点 1点 2点 3点 4点 5点 6点 7点 8点 9点 10点 11点 12点 13点 14点"),
    (0x3367, "15点 16点 17点 18点 19点 20点 21点 22点 23点 24点 hpa da au bar ov pc dm"),
    (0x3378, "dm2 dm3 iu 平成 昭和 大正 明治 株式会社 pa na μa ma ka kb mb gb cal kcal"),
    (0x338A, "pf nf μf μg mg kg hz khz mhz ghz thz μl ml dl kl fm nm μm mm"),
    (0x339D, "cm km mm2 cm2 m2 km2 mm3 cm3 m3 km3 m∕s m∕s2 pa kpa mpa gpa rad"),
    (0x33AE, "rad∕s rad∕s2 ps ns μs ms pv nv μv mv kv mv pw nw μw mw kw mw"),
    (0x33C0, "kω mω"),
    (0x33C3, "bq cc cd c∕kg"),
    (0x33C8, "db gy ha hp in kk km kt lm ln log lx mb mil mol ph"),
    (0x33D9, "ppm pr sr sv wb v∕m a∕m 1日 2日 3日 4日 5日 6日 7日 8日 9日 10日 11日 12日"),
    (0x33EC, "13日 14日 15日 16日 17日 18日 19日 20日 21日 22日 23日 24日 25日 26日 27日 28日"),
    (0x33FC, "29日 30日 31日 gal"),
    (0xA69C, "ъ ь"),
    (0xA770, "ꝯ"),
    (0xA779, "ꝺ"),
    (0xA77B, "ꝼ"),
    (0xA77D, "ᵹ"),
    (0xA78B, "ꞌ"),
    (0xA78D, "ɥ"),
    (0xA790, "ꞑ"),
    (0xA792, "ꞓ"),
    (0xA7AA, "ɦ ɜ ɡ ɬ ɪ"),
    (0xA7B0, "ʞ ʇ ʝ ꭓ"),
    (0xA7C4, "ꞔ ʂ ᶎ ꟈ"),
    (0xA7C9, "ꟊ"),
    (0xA7CB, "ɤ"),
    (0xA7DC, "ƛ"),
    (0xA7F1, "s c f q ꟶ"),
    (0xA7F8, "ħ œ"),
    (0xAB5C, "ꜧ ꬷ ɫ ꭒ"),
    (0xAB69, "ʍ"),
    (0xFB00, "ff fi fl ffi ffl st st"),
    (0xFB13, "մն մե մի վն մխ"),
    (0xFB20, "ע א ד ה כ ל ם ר ת +"),
    (0xFB4F, "אל ٱ ٱ ٻ ٻ ٻ ٻ پ پ پ پ ڀ ڀ ڀ ڀ ٺ ٺ ٺ ٺ ٿ ٿ ٿ ٿ ٹ ٹ ٹ ٹ ڤ ڤ ڤ"),
    (0xFB6D, "ڤ ڦ ڦ ڦ ڦ ڄ ڄ ڄ ڄ ڃ ڃ ڃ ڃ چ چ چ چ ڇ ڇ ڇ ڇ ڍ ڍ ڌ ڌ ڎ ڎ ڈ ڈ ژ ژ"),
    (0xFB8C, "ڑ ڑ ک ک ک ک گ گ گ گ ڳ ڳ ڳ ڳ ڱ ڱ ڱ ڱ ں ں ڻ ڻ ڻ ڻ ۀ ۀ ہ ہ ہ ہ ھ"),
    (0xFBAB, "ھ ھ ھ ے ے ۓ ۓ"),
    (0xFBD3, "ڭ ڭ ڭ ڭ ۇ ۇ ۆ ۆ ۈ ۈ ۇٴ ۋ ۋ ۅ ۅ ۉ ۉ ې ې ې ې ى ى ئا ئا ئە ئە ئو"),
    (0xFBEF, "ئو ئۇ ئۇ ئۆ ئۆ ئۈ ئۈ ئې ئې ئې ئى ئى ئى ی ی ی ی ئج ئح ئم ئى ئي"),
    (0xFC05, "بج بح بخ بم بى بي تج تح تخ تم تى تي ثج ثم ثى ثي جح جم حج حم خج"),
    (0xFC1A, "خح خم سج سح سخ سم صح صم ضج ضح ضخ ضم طح طم ظم عج عم غج غم فج فح"),
    (0xFC2F, "فخ فم فى في قح قم قى قي كا كج كح كخ كل كم كى كي لج لح لخ لم لى"),
    (0xFC44, "لي مج مح مخ مم مى مي نج نح نخ نم نى ني هج هم هى هي يج يح يخ يم"),
    (0xFC59, "يى يي ذٰ رٰ ىٰ"),
    (0xFC64, "ئر ئز ئم ئن ئى ئي بر بز بم بن بى بي تر تز تم تن تى تي ثر ثز ثم"),
    (0xFC79, "ثن ثى ثي فى في قى قي كا كل كم كى كي لم لى لي ما مم نر نز نم نن"),
    (0xFC8E, "نى ني ىٰ ير يز يم ين يى يي ئج ئح ئخ ئم ئه بج بح بخ بم به تج تح"),
    (0xFCA3, "تخ تم ته ثم جح جم حج حم خج خم سج سح سخ سم صح صخ صم ضج ضح ضخ ضم"),
    (0xFCB8, "طح ظم عج عم غج غم فج فح فخ فم قح قم كج كح كخ كل كم لج لح لخ لم"),
    (0xFCCD, "له مج مح مخ مم نج نح نخ نم نه هج هم هٰ يج يح يخ يم يه ئم ئه بم"),
    (0xFCE2, "به تم ته ثم ثه سم سه شم شه كل كم لم نم نه يم يه ـَّ ـُّ ـِّ طى"),
    (0xFCF6, "طي عى عي غى غي سى سي شى شي حى حي جى جي خى خي صى صي ضى ضي شج شح"),
    (0xFD0B, "شخ شم شر سر صر ضر طى طي عى عي غى غي سى سي شى شي حى حي جى جي خى"),
    (0xFD20, "خي صى صي ضى ضي شج شح شخ شم شر سر صر ضر شج شح شخ شم سه شه طم سج"),
    (0xFD35, "سح سخ شج شح شخ طم ظم اً اً"),
    (0xFD50, "تجم تحج تحج تحم تخم تمج تمح تمخ جمح جمح حمي حمى سحج سجح سجى سمح"),
    (0xFD60, "سمح سمج سمم سمم صحح صحح صمم شحم شحم شجي شمخ شمخ شمم شمم ضحى ضخم"),
    (0xFD70, "ضخم طمح طمح طمم طمي عجم عمم عمم عمى غمم غمي غمى فخم فخم قمح قمم"),
    (0xFD80, "لحم لحي لحى لجج لجج لخم لخم لمح لمح محج محم محي مجح مجم مخج مخم"),
    (0xFD92, "مجخ همج همم نحم نحى نجم نجم نجى نمي نمى يمم يمم بخي تجي تجى تخي"),
    (0xFDA2, "تخى تمي تمى جمي جحى جمى سخى صحي شحي ضحي لجي لمي يحي يجي يمي ممي"),
    (0xFDB2, "قمي نحي قمح لحم عمي كمي نجح مخي لجم كمم لجم نجح جحي حجي مجي فمي"),
    (0xFDC2, "بحي كمم عجم صمم سخي نجي"),
    (0xFDF0, "صلے قلے الله اكبر محمد صلعم رسول عليه وسلم صلى"),
    (0xFDFC, "ریال"),
    (0xFE10, ", 、"),
    (0xFE14, "; !"),
    (0xFE17, "〖 〗"),
    (0xFE31, "— – _ _ ( ) \x7b \x7d 〔 〕 【 】 《 》 〈 〉"),
    (0xFE4D, "_ _ _ , 、"),
    (0xFE54, ";"),
    (0xFE57, "! — ( ) \x7b \x7d 〔 〕"),
    (0xFE60, "& * + -"),
    (0xFE66, "="),
    (0xFE69, "$"),
    (0xFE71, "ـً"),
    (0xFE77, "ـَ"),
    (0xFE79, "ـُ"),
    (0xFE7B, "ـِ"),
    (0xFE7D, "ـّ"),
    (0xFE7F, "ـْ ء آ آ أ أ ؤ ؤ إ إ ئ ئ ئ ئ ا ا ب ب ب ب ة ة ت ت ت ت ث ث ث ث"),
    (0xFE9D, "ج ج ج ج ح ح ح ح خ خ خ خ د د ذ ذ ر ر ز ز س س س س ش ش ش ش ص ص ص"),
    (0xFEBC, "ص ض ض ض ض ط ط ط ط ظ ظ ظ ظ ع ع ع ع غ غ غ غ ف ف ف ف ق ق ق ق ك ك"),
    (0xFEDB, "ك ك ل ل ل ل م م م م ن ن ن ن ه ه ه ه و و ى ى ي ي ي ي لآ لآ لأ"),
    (0xFEF8, "لأ لإ لإ لا لا"),
    (0xFF5F, "⦅ ⦆ . 「 」 、 ・ ヲ ァ ィ ゥ ェ ォ ャ ュ ョ ッ ー ア イ ウ エ オ カ キ ク ケ コ サ シ ス"),
    (0xFF7E, "セ ソ タ チ ツ テ ト"),
    (0xFF8B, "ヒ フ ヘ ホ"),
    (0xFF94, "ヤ ユ"),
    (0xFF9C, "ワ ン ゙ ゚"),
    (0xFFA1, "ᄀ ᄁ ᆪ ᄂ ᆬ ᆭ ᄃ ᄄ ᄅ"),
    (0xFFB0, "ᄚ ᄆ ᄇ ᄈ ᄡ"),
    (0xFFDA, "ᅳ ᅴ ᅵ"),
    (0xFFE0, "¢ £ ¬"),
    (0xFFE4, "¦ ¥ ₩"),
    (0xFFE8, "│"),
    (0xFFED, "■ ○"),
    (0x1058D, "𐖴"),
    (0x1058F, "𐖶"),
    (0x10591, "𐖸"),
    (0x10595, "𐖼"),
    (0x10781, "ː ˑ æ ʙ ɓ"),
    (0x10787, "ʣ ꭦ ʥ ʤ ɖ ɗ ᶑ ɘ ɞ ʩ ɤ ɢ ɠ ʛ ħ ʜ ɧ ʄ ʪ ʫ ɬ 𝼄 ꞎ ɮ 𝼅 ʎ 𝼆 ø ɶ ɷ q"),
    (0x107A6, "ɺ 𝼈 ɽ ɾ ʀ ʨ ʦ ꭧ ʧ ʈ ⱱ"),
    (0x107B2, "ʏ ʡ ʢ ʘ ǀ ǁ ǂ 𝼊 𝼞"),
    (0x1D44F, "b"),
    (0x1D451, "d"),
    (0x1D453, "f"),
    (0x1D49C, "a"),
    (0x1D49E, "c d"),
    (0x1D4A2, "g"),
    (0x1D4A5, "j k"),
    (0x1D4BE, "i"),
    (0x1D4C0, "k"),
    (0x1D4C2, "m"),
    (0x1D504, "a b"),
    (0x1D538, "a b"),
    (0x1D546, "o"),
    (0x1D6A4, "ı ȷ"),
    (0x1D6B9, "θ"),
    (0x1D6C1, "∇"),
    (0x1D6D3, "σ"),
    (0x1D6DB, "∂ ε θ κ φ ρ π"),
    (0x1D6F3, "θ"),
    (0x1D6FB, "∇"),
    (0x1D70D, "σ"),
    (0x1D715, "∂ ε θ κ φ ρ π"),
    (0x1D72D, "θ"),
    (0x1D735, "∇"),
    (0x1D747, "σ"),
    (0x1D74F, "∂ ε θ κ φ ρ π"),
    (0x1D767, "θ"),
    (0x1D76F, "∇"),
    (0x1D781, "σ"),
    (0x1D789, "∂ ε θ κ φ ρ π"),
    (0x1D7A1, "θ"),
    (0x1D7A9, "∇"),
    (0x1D7BB, "σ"),
    (0x1D7C3, "∂ ε θ κ φ ρ π ϝ ϝ"),
    (0x1E039, "к л м"),
    (0x1E047, "ы э ю ꚉ ә і ј ө ү ӏ"),
    (0x1E05A, "к л о п с"),
    (0x1E065, "ъ ы ґ і ѕ џ ҫ ꙑ ұ"),
    (0x1EE00, "ا ب ج د"),
    (0x1EE05, "و ز ح ط ي"),
    (0x1EE0E, "س ع ف ص ق ر ش ت ث خ ذ ض ظ غ ٮ ں ڡ ٯ"),
    (0x1EE21, "ب ج"),
    (0x1EE24, "ه"),
    (0x1EE27, "ح"),
    (0x1EE29, "ي"),
    (0x1EE2E, "س ع ف ص ق"),
    (0x1EE34, "ش ت ث خ"),
    (0x1EE39, "ض"),
    (0x1EE3B, "غ"),
    (0x1EE42, "ج"),
    (0x1EE47, "ح"),
    (0x1EE49, "ي"),
    (0x1EE4B, "ل"),
    (0x1EE4D, "ن س ع"),
    (0x1EE51, "ص ق"),
    (0x1EE54, "ش"),
    (0x1EE57, "خ"),
    (0x1EE59, "ض"),
    (0x1EE5B, "غ"),
    (0x1EE5D, "ں"),
    (0x1EE5F, "ٯ"),
    (0x1EE61, "ب ج"),
    (0x1EE64, "ه"),
    (0x1EE67, "ح ط ي ك"),
    (0x1EE6C, "م ن س ع ف ص ق"),
    (0x1EE74, "ش ت ث خ"),
    (0x1EE79, "ض ظ غ ٮ"),
    (0x1EE7E, "ڡ"),
    (0x1EE80, "ا ب ج د ه و ز ح ط ي"),
    (0x1EE8B, "ل م ن س ع ف ص ق ر ش ت ث خ ذ ض ظ غ"),
    (0x1EEA1, "ب ج د"),
    (0x1EEA5, "و ز ح ط ي"),
    (0x1EEAB, "ل م ن س ع ف ص ق ر ش ت ث خ ذ ض ظ غ"),
    (0x1F101, "0, 1, 2, 3, 4, 5, 6, 7, 8, 9,"),
    (0x1F110, "(a) (b) (c) (d) (e) (f) (g) (h) (i) (j) (k) (l) (m) (n) (o) (p)"),
    (0x1F120, "(q) (r) (s) (t) (u) (v) (w) (x) (y) (z) 〔s〕 c r cd wz"),
    (0x1F14A, "hv mv sd ss ppv wc"),
    (0x1F16A, "mc md mr"),
    (0x1F190, "dj"),
    (0x1F200, "ほか ココ サ"),
    (0x1F210, "手 字 双 デ 二 多 解 天 交 映 無 料 前 後 再 新 初 終 生 販 声 吹 演 投 捕 一 三 遊 左 中 右"),
    (0x1F22F, "指 走 打 禁 空 合 満 有 月 申 割 営 配"),
    (0x1F240, "〔本〕 〔三〕 〔二〕 〔安〕 〔点〕 〔打〕 〔盗〕 〔勝〕 〔敗〕"),
    (0x1F250, "得 可")
  ]

/-- The code points at which characters that vanish begin and end. -/
def vanishingTurns : List Nat :=
  [173, 174, 847, 848, 4447, 4449, 6068, 6070, 6155, 6160, 8203, 8204, 8288, 8293, 8298, 8304,
   12644, 12645, 65024, 65040, 65279, 65280, 65440, 65441, 113824, 113828, 119155, 119163, 917760,
   918000]

def entries : List (Nat × List (List Char)) :=
  words.map fun (first, text) => (first, splitAll ' ' text.toList)

def word? (n : Nat) : Option (List Char) :=
  entries.findSome? fun (first, images) => if first ≤ n then images[n - first]? else none

/-- The character that a code point becomes. -/
def single? (n : Nat) : Option Char :=
  (runs.find? fun r => r.first ≤ n && n ≤ r.last && (n - r.first) % r.step = 0).map fun r =>
    Char.ofNat (r.image + (n - r.first))

/-- What a character becomes. -/
def fold (c : Char) : List Char :=
  if c.toNat < 0x80 then [c.toLower]
  else if inTurns vanishingTurns c then []
  else
    match single? c.toNat with
    | some d => [d]
    | none => (word? c.toNat).getD [c]

end BearerSession.Folding
