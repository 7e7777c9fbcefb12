/-
Characters that stand for others.

Some characters are only other ways to write a character or a sequence of them: signs such
as that of the angstrom, ideographs that were encoded twice, and letters with points that
are written apart.  A text in normal form has none of them.  The rows begin with a code
point and give what it and the following ones stand for; they are those of the Unicode
character database, version 17, in increasing order.
-/
import HttpGet.Text.Ranges

namespace HttpGet

/-- Letters and signs that stand for one other character. -/
def equivalents.letters : List (Nat × String) := [
  (0x340, "\u0300\u0301"), (0x343, "\u0313"), (0x374, "ʹ"), (0x37E, ";"), (0x387, "·"),
  (0x1F71, "ά"), (0x1F73, "έ"), (0x1F75, "ή"), (0x1F77, "ί"), (0x1F79, "ό"), (0x1F7B, "ύ"),
  (0x1F7D, "ώ"), (0x1FBB, "Ά"), (0x1FBE, "ι"), (0x1FC9, "Έ"), (0x1FCB, "Ή"), (0x1FD3, "ΐ"),
  (0x1FDB, "Ί"), (0x1FE3, "ΰ"), (0x1FEB, "Ύ"), (0x1FEE, "\u0385`"), (0x1FF9, "Ό"), (0x1FFB, "Ώ"),
  (0x1FFD, "\u00B4"), (0x2000, "\u2002\u2003"), (0x2126, "Ω"), (0x212A, "KÅ"), (0x2329, "〈〉")]

/-- Ideographs that stand for one other ideograph, below U+10000. -/
def equivalents.ideographs : List (Nat × String) := [
  (0xF900, "豈更車賈滑串句龜龜契金喇奈懶癩羅"), (0xF910, "蘿螺裸邏樂洛烙珞落酪駱亂卵欄爛蘭"),
  (0xF920, "鸞嵐濫藍襤拉臘蠟廊朗浪狼郎來冷勞"), (0xF930, "擄櫓爐盧老蘆虜路露魯鷺碌祿綠菉錄"),
  (0xF940, "鹿論壟弄籠聾牢磊賂雷壘屢樓淚漏累"), (0xF950, "縷陋勒肋凜凌稜綾菱陵讀拏樂諾丹寧"),
  (0xF960, "怒率異北磻便復不泌數索參塞省葉說"), (0xF970, "殺辰沈拾若掠略亮兩凉梁糧良諒量勵"),
  (0xF980, "呂女廬旅濾礪閭驪麗黎力曆歷轢年憐"), (0xF990, "戀撚漣煉璉秊練聯輦蓮連鍊列劣咽烈"),
  (0xF9A0, "裂說廉念捻殮簾獵令囹寧嶺怜玲瑩羚"), (0xF9B0, "聆鈴零靈領例禮醴隸惡了僚寮尿料樂"),
  (0xF9C0, "燎療蓼遼龍暈阮劉杻柳流溜琉留硫紐"), (0xF9D0, "類六戮陸倫崙淪輪律慄栗率隆利吏履"),
  (0xF9E0, "易李梨泥理痢罹裏裡里離匿溺吝燐璘"), (0xF9F0, "藺隣鱗麟林淋臨立笠粒狀炙識什茶刺"),
  (0xFA00, "切度拓糖宅洞暴輻行降見廓兀嗀"), (0xFA10, "塚"), (0xFA12, "晴"),
  (0xFA15, "凞猪益礼神祥福靖精羽"), (0xFA20, "蘒"), (0xFA22, "諸"), (0xFA25, "逸都"),
  (0xFA2A, "飯飼館鶴郞隷"), (0xFA30, "侮僧免勉勤卑喝嘆器塀墨層屮悔慨憎"),
  (0xFA40, "懲敏既暑梅海渚漢煮爫琢碑社祉祈祐"), (0xFA50, "祖祝禍禎穀突節練縉繁署者臭艹艹著"),
  (0xFA60, "褐視謁謹賓贈辶逸難響頻恵𤋮舘"), (0xFA70, "並况全侀充冀勇勺喝啕喙嗢塚墳奄奔"),
  (0xFA80, "婢嬨廒廙彩徭惘慎愈憎慠懲戴揄搜摒"), (0xFA90, "敖晴朗望杖歹殺流滛滋漢瀞煮瞧爵犯"),
  (0xFAA0, "猪瑱甆画瘝瘟益盛直睊着磌窱節类絛"), (0xFAB0, "練缾者荒華蝹襁覆視調諸請謁諾諭謹"),
  (0xFAC0, "變贈輸遲醙鉶陼難靖韛響頋頻鬒龜𢡊"), (0xFAD0, "𢡄𣏕㮝䀘䀹𥉉𥳐𧻓齃龎")]

/-- Ideographs that stand for one other ideograph, from U+10000 on. -/
def equivalents.laterIdeographs : List (Nat × String) := [
  (0x2F800, "丽丸乁𠄢你侮侻倂偺備僧像㒞𠘺免兔"), (0x2F810, "兤具𠔜㒹內再𠕋冗冤仌冬况𩇟凵刃㓟"),
  (0x2F820, "刻剆割剷㔕勇勉勤勺包匆北卉卑博即"), (0x2F830, "卽卿卿卿𠨬灰及叟𠭣叫叱吆咞吸呈周"),
  (0x2F840, "咢哶唐啓啣善善喙喫喳嗂圖嘆圗噑噴"), (0x2F850, "切壮城埴堍型堲報墬𡓤売壷夆多夢奢"),
  (0x2F860, "𡚨𡛪姬娛娧姘婦㛮㛼嬈嬾嬾𡧈寃寘寧"), (0x2F870, "寳𡬘寿将当尢㞁屠屮峀岍𡷤嵃𡷦嵮嵫"),
  (0x2F880, "嵼巡巢㠯巽帨帽幩㡢𢆃㡼庰庳庶廊𪎒"), (0x2F890, "廾𢌱𢌱舁弢弢㣇𣊸𦇚形彫㣣徚忍志忹"),
  (0x2F8A0, "悁㤺㤜悔𢛔惇慈慌慎慌慺憎憲憤憯懞"), (0x2F8B0, "懲懶成戛扝抱拔捐𢬌挽拼捨掃揤𢯱搢"),
  (0x2F8C0, "揅掩㨮摩摾撝摷㩬敏敬𣀊旣書晉㬙暑"), (0x2F8D0, "㬈㫤冒冕最暜肭䏙朗望朡杞杓𣏃㭉柺"),
  (0x2F8E0, "枅桒梅𣑭梎栟椔㮝楂榣槪檨𣚣櫛㰘次"), (0x2F8F0, "𣢧歔㱎歲殟殺殻𣪍𡴋𣫺汎𣲼沿泍汧洖"),
  (0x2F900, "派海流浩浸涅𣴞洴港湮㴳滋滇𣻑淹潮"), (0x2F910, "𣽞𣾎濆瀹瀞瀛㶖灊災灷炭𠔥煅𤉣熜𤎫"),
  (0x2F920, "爨爵牐𤘈犀犕𤜵𤠔獺王㺬玥㺸㺸瑇瑜"), (0x2F930, "瑱璅瓊㼛甤𤰶甾𤲒異𢆟瘐𤾡𤾸𥁄㿼䀈"),
  (0x2F940, "直𥃳𥃲𥄙𥄳眞真真睊䀹瞋䁆䂖𥐝硎碌"), (0x2F950, "磌䃣𥘦祖𥚚𥛅福秫䄯穀穊穏𥥼𥪧𥪧竮"),
  (0x2F960, "䈂𥮫篆築䈧𥲀糒䊠糨糣紀𥾆絣䌁緇縂"), (0x2F970, "繅䌴𦈨𦉇䍙𦋙罺𦌾羕翺者𦓚𦔣聠𦖨聰"),
  (0x2F980, "𣍟䏕育脃䐋脾媵𦞧𦞵𣎓𣎜舁舄辞䑫芑"), (0x2F990, "芋芝劳花芳芽苦𦬼若茝荣莭茣莽菧著"),
  (0x2F9A0, "荓菊菌菜𦰶𦵫𦳕䔫蓱蓳蔖𧏊蕤𦼬䕝䕡"), (0x2F9B0, "𦾱𧃒䕫虐虜虧虩蚩蚈蜎蛢蝹蜨蝫螆䗗"),
  (0x2F9C0, "蟡蠁䗹衠衣𧙧裗裞䘵裺㒻𧢮𧥦䚾䛇誠"), (0x2F9D0, "諭變豕𧲨貫賁贛起𧼯𠠄跋趼跰𠣞軔輸"),
  (0x2F9E0, "𨗒𨗭邔郱鄑𨜮鄛鈸鋗鋘鉼鏹鐕𨯺開䦕"), (0x2F9F0, "閷𨵷䧦雃嶲霣𩅅𩈚䩮䩶韠𩐊䪲𩒖頋頋"),
  (0x2FA00, "頩𩖶飢䬳餩馧駂駾䯎𩬰鬒鱀鳽䳎䳭鵧"), (0x2FA10, "𪃎䳸𪄅𪈎𪊑麻䵖黹黾鼅鼏鼖鼻𪘀")]

/-- Characters that stand for a sequence. -/
def equivalents.sequences : List (Nat × List String) := [
  (0x344, ["\u0308\u0301"]), (0x958, ["क\u093C", "ख\u093C", "ग\u093C", "ज\u093C"]),
  (0x95C, ["ड\u093C", "ढ\u093C", "फ\u093C", "य\u093C"]), (0x9DC, ["ড\u09BC", "ঢ\u09BC"]),
  (0x9DF, ["য\u09BC"]), (0xA33, ["ਲ\u0A3C"]), (0xA36, ["ਸ\u0A3C"]),
  (0xA59, ["ਖ\u0A3C", "ਗ\u0A3C", "ਜ\u0A3C"]), (0xA5E, ["ਫ\u0A3C"]), (0xB5C, ["ଡ\u0B3C", "ଢ\u0B3C"]),
  (0xF43, ["ག\u0FB7"]), (0xF4D, ["ཌ\u0FB7"]), (0xF52, ["ད\u0FB7"]), (0xF57, ["བ\u0FB7"]),
  (0xF5C, ["ཛ\u0FB7"]), (0xF69, ["ཀ\u0FB5"]), (0xF73, ["\u0F71\u0F72"]),
  (0xF75, ["\u0F71\u0F74", "\u0FB2\u0F80"]), (0xF78, ["\u0FB3\u0F80"]), (0xF81, ["\u0F71\u0F80"]),
  (0xF93, ["\u0F92\u0FB7"]), (0xF9D, ["\u0F9C\u0FB7"]), (0xFA2, ["\u0FA1\u0FB7"]),
  (0xFA7, ["\u0FA6\u0FB7"]), (0xFAC, ["\u0FAB\u0FB7"]), (0xFB9, ["\u0F90\u0FB5"]),
  (0x2ADC, ["⫝\u0338"]), (0xFB1D, ["\u05D9\u05B4"]), (0xFB1F, ["\u05F2\u05B7"]),
  (0xFB2A, ["\u05E9\u05C1", "\u05E9\u05C2"]),
  (0xFB2C, ["\u05E9\u05BC\u05C1", "\u05E9\u05BC\u05C2", "\u05D0\u05B7", "\u05D0\u05B8"]),
  (0xFB30, ["\u05D0\u05BC", "\u05D1\u05BC", "\u05D2\u05BC", "\u05D3\u05BC"]),
  (0xFB34, ["\u05D4\u05BC", "\u05D5\u05BC", "\u05D6\u05BC"]),
  (0xFB38, ["\u05D8\u05BC", "\u05D9\u05BC", "\u05DA\u05BC", "\u05DB\u05BC"]),
  (0xFB3C, ["\u05DC\u05BC"]), (0xFB3E, ["\u05DE\u05BC"]),
  (0xFB40, ["\u05E0\u05BC", "\u05E1\u05BC"]), (0xFB43, ["\u05E3\u05BC"]),
  (0xFB44, ["\u05E4\u05BC"]), (0xFB46, ["\u05E6\u05BC", "\u05E7\u05BC"]),
  (0xFB48, ["\u05E8\u05BC", "\u05E9\u05BC", "\u05EA\u05BC", "\u05D5\u05B9"]),
  (0xFB4C, ["\u05D1\u05BF", "\u05DB\u05BF", "\u05E4\u05BF"]), (0x1D15E, ["𝅗𝅥", "𝅘𝅥"]),
  (0x1D160, ["𝅘𝅥𝅮", "𝅘𝅥𝅯", "𝅘𝅥𝅰", "𝅘𝅥𝅱"]), (0x1D164, ["𝅘𝅥𝅲"]), (0x1D1BB, ["𝆹𝅥"]),
  (0x1D1BC, ["𝆺𝅥", "𝆹𝅥𝅮", "𝆺𝅥𝅮", "𝆹𝅥𝅯"]), (0x1D1C0, ["𝆺𝅥𝅯"])]

/-- What a character stands for, if it is only another way to write it. -/
def equivalent? (c : Char) : Option (List Char) :=
  let n := c.toNat
  if n < 0x340 then none
  else if n < 0xF900 then
    ((charAt? equivalents.letters n).map ([·])).or (textAt? equivalents.sequences n)
  else if n < 0xFB00 then (charAt? equivalents.ideographs n).map ([·])
  else if n < 0x2F800 then textAt? equivalents.sequences n
  else (charAt? equivalents.laterIdeographs n).map ([·])

/-- The characters of the Latin letters stand for themselves. -/
theorem equivalent?_of_lt {c : Char} (h : c.toNat < 0x340) : equivalent? c = none := by
  unfold equivalent?
  simp [h]

example : equivalent? '\u212B' = some ['Å'] ∧ equivalent? '\uF900' = some ['豈'] ∧
    equivalent? '\uFB2A' = some ['\u05E9', '\u05C1'] ∧ equivalent? 'é' = none := by
  decide +kernel

end HttpGet
