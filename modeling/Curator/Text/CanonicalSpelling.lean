/-! Characters that are another way to write others. Some are only ever written in the other way; a
letter with a mark is one character where there is one. -/
namespace Curator.Text

/-- Runs of characters that are written as one other character each: the first of the run, and those
in place of it and of the ones behind it. -/
def respelledRuns : List (Nat × String) :=
  [(0x340, "\u0300\u0301"), (0x343, "\u0313"), (0x374, "ʹ"), (0x37E, ";"), (0x387, "·"),
   (0x1F71, "ά"), (0x1F73, "έ"), (0x1F75, "ή"), (0x1F77, "ί"), (0x1F79, "ό"), (0x1F7B, "ύ"),
   (0x1F7D, "ώ"), (0x1FBB, "\u0386"), (0x1FBE, "ι"), (0x1FC9, "\u0388"), (0x1FCB, "\u0389"),
   (0x1FD3, "ΐ"), (0x1FDB, "\u038a"), (0x1FE3, "ΰ"), (0x1FEB, "\u038e"), (0x1FEE, "\u0385`"),
   (0x1FF9, "\u038c"), (0x1FFB, "\u038f"), (0x1FFD, "\u00b4"), (0x2000, "\u2002\u2003"),
   (0x2126, "\u03a9"), (0x212A, "K\u00c5"), (0x2329, "〈〉"),
   (0xF900, "豈更車賈滑串句龜龜契金喇奈懶癩羅蘿螺裸邏樂洛烙珞落酪駱亂卵欄爛蘭鸞嵐濫藍襤拉臘蠟廊朗浪狼郎來冷勞擄櫓爐盧老蘆虜路露魯鷺碌祿綠菉錄鹿論壟弄籠聾"),
   (0xF946, "牢磊賂雷壘屢樓淚漏累縷陋勒肋凜凌稜綾菱陵讀拏樂諾丹寧怒率異北磻便復不泌數索參塞省葉說殺辰沈拾若掠略亮兩凉梁糧良諒量勵呂女廬旅濾礪閭驪麗黎力曆"),
   (0xF98C, "歷轢年憐戀撚漣煉璉秊練聯輦蓮連鍊列劣咽烈裂說廉念捻殮簾獵令囹寧嶺怜玲瑩羚聆鈴零靈領例禮醴隸惡了僚寮尿料樂燎療蓼遼龍暈阮劉杻柳流溜琉留硫紐類六"),
   (0xF9D2, "戮陸倫崙淪輪律慄栗率隆利吏履易李梨泥理痢罹裏裡里離匿溺吝燐璘藺隣鱗麟林淋臨立笠粒狀炙識什茶刺切度拓糖宅洞暴輻行降見廓兀嗀"), (0xFA10, "塚"),
   (0xFA12, "晴"), (0xFA15, "凞猪益礼神祥福靖精羽"), (0xFA20, "蘒"), (0xFA22, "諸"), (0xFA25, "逸都"),
   (0xFA2A, "飯飼館鶴郞隷侮僧免勉勤卑喝嘆器塀墨層屮悔慨憎懲敏既暑梅海渚漢煮爫琢碑社祉祈祐祖祝禍禎穀突節練縉繁署者臭艹艹著褐視謁謹賓贈辶逸難響頻恵𤋮舘"),
   (0xFA70, "並况全侀充冀勇勺喝啕喙嗢塚墳奄奔婢嬨廒廙彩徭惘慎愈憎慠懲戴揄搜摒敖晴朗望杖歹殺流滛滋漢瀞煮瞧爵犯猪瑱甆画瘝瘟益盛直睊着磌窱節类絛練缾者荒華蝹"),
   (0xFAB6, "襁覆視調諸請謁諾諭謹變贈輸遲醙鉶陼難靖韛響頋頻鬒龜𢡊𢡄𣏕㮝䀘䀹𥉉𥳐𧻓齃龎"),
   (0x2F800, "丽丸乁𠄢你侮侻倂偺備僧像㒞𠘺免兔兤具𠔜㒹內再𠕋冗冤仌冬况𩇟凵刃㓟刻剆割剷㔕勇勉勤勺包匆北卉卑博即卽卿卿卿𠨬灰及叟𠭣叫叱吆咞吸呈周咢哶唐啓啣善"),
   (0x2F846, "善喙喫喳嗂圖嘆圗噑噴切壮城埴堍型堲報墬𡓤売壷夆多夢奢𡚨𡛪姬娛娧姘婦㛮㛼嬈嬾嬾𡧈寃寘寧寳𡬘寿将当尢㞁屠屮峀岍𡷤嵃𡷦嵮嵫嵼巡巢㠯巽帨帽幩㡢𢆃㡼庰"),
   (0x2F88C, "庳庶廊𪎒廾𢌱𢌱舁弢弢㣇𣊸𦇚形彫㣣徚忍志忹悁㤺㤜悔𢛔惇慈慌慎慌慺憎憲憤憯懞懲懶成戛扝抱拔捐𢬌挽拼捨掃揤𢯱搢揅掩㨮摩摾撝摷㩬敏敬𣀊旣書晉㬙暑㬈㫤"),
   (0x2F8D2, "冒冕最暜肭䏙朗望朡杞杓𣏃㭉柺枅桒梅𣑭梎栟椔㮝楂榣槪檨𣚣櫛㰘次𣢧歔㱎歲殟殺殻𣪍𡴋𣫺汎𣲼沿泍汧洖派海流浩浸涅𣴞洴港湮㴳滋滇𣻑淹潮𣽞𣾎濆瀹瀞瀛㶖灊"),
   (0x2F918, "災灷炭𠔥煅𤉣熜𤎫爨爵牐𤘈犀犕𤜵𤠔獺王㺬玥㺸㺸瑇瑜瑱璅瓊㼛甤𤰶甾𤲒異𢆟瘐𤾡𤾸𥁄㿼䀈直𥃳𥃲𥄙𥄳眞真真睊䀹瞋䁆䂖𥐝硎碌磌䃣𥘦祖𥚚𥛅福秫䄯穀穊穏𥥼𥪧"),
   (0x2F95E, "𥪧竮䈂𥮫篆築䈧𥲀糒䊠糨糣紀𥾆絣䌁緇縂繅䌴𦈨𦉇䍙𦋙罺𦌾羕翺者𦓚𦔣聠𦖨聰𣍟䏕育脃䐋脾媵𦞧𦞵𣎓𣎜舁舄辞䑫芑芋芝劳花芳芽苦𦬼若茝荣莭茣莽菧著荓菊菌菜"),
   (0x2F9A4, "𦰶𦵫𦳕䔫蓱蓳蔖𧏊蕤𦼬䕝䕡𦾱𧃒䕫虐虜虧虩蚩蚈蜎蛢蝹蜨蝫螆䗗蟡蠁䗹衠衣𧙧裗裞䘵裺㒻𧢮𧥦䚾䛇誠諭變豕𧲨貫賁贛起𧼯𠠄跋趼跰𠣞軔輸𨗒𨗭邔郱鄑𨜮鄛鈸鋗鋘"),
   (0x2F9EA, "鉼鏹鐕𨯺開䦕閷𨵷䧦雃嶲霣𩅅𩈚䩮䩶韠𩐊䪲𩒖頋頋頩𩖶飢䬳餩馧駂駾䯎𩬰鬒鱀鳽䳎䳭鵧𪃎䳸𪄅𪈎𪊑麻䵖黹黾鼅鼏鼖鼻𪘀")]

/-- Characters that are written as several. -/
def respelledLong : List (Nat × List String) :=
  [(0x344, ["\u0308\u0301"]),
   (0x958, ["क\u093c", "ख\u093c", "ग\u093c", "ज\u093c", "ड\u093c", "ढ\u093c", "फ\u093c"]),
   (0x95F, ["य\u093c"]), (0x9DC, ["ড\u09bc", "ঢ\u09bc"]), (0x9DF, ["য\u09bc"]),
   (0xA33, ["ਲ\u0a3c"]), (0xA36, ["ਸ\u0a3c"]), (0xA59, ["ਖ\u0a3c", "ਗ\u0a3c", "ਜ\u0a3c"]),
   (0xA5E, ["ਫ\u0a3c"]), (0xB5C, ["ଡ\u0b3c", "ଢ\u0b3c"]), (0xF43, ["ག\u0fb7"]),
   (0xF4D, ["ཌ\u0fb7"]), (0xF52, ["ད\u0fb7"]), (0xF57, ["བ\u0fb7"]), (0xF5C, ["ཛ\u0fb7"]),
   (0xF69, ["ཀ\u0fb5"]), (0xF73, ["\u0f71\u0f72"]), (0xF75, ["\u0f71\u0f74", "\u0fb2\u0f80"]),
   (0xF78, ["\u0fb3\u0f80"]), (0xF81, ["\u0f71\u0f80"]), (0xF93, ["\u0f92\u0fb7"]),
   (0xF9D, ["\u0f9c\u0fb7"]), (0xFA2, ["\u0fa1\u0fb7"]), (0xFA7, ["\u0fa6\u0fb7"]),
   (0xFAC, ["\u0fab\u0fb7"]), (0xFB9, ["\u0f90\u0fb5"]), (0x2ADC, ["⫝\u0338"]),
   (0xFB1D, ["\u05d9\u05b4"]), (0xFB1F, ["\u05f2\u05b7"]),
   (0xFB2A, ["\u05e9\u05c1", "\u05e9\u05c2", "\u05e9\u05bc\u05c1", "\u05e9\u05bc\u05c2"]),
   (0xFB2E, ["\u05d0\u05b7", "\u05d0\u05b8", "\u05d0\u05bc", "\u05d1\u05bc"]),
   (0xFB32, ["\u05d2\u05bc", "\u05d3\u05bc", "\u05d4\u05bc", "\u05d5\u05bc"]),
   (0xFB36, ["\u05d6\u05bc"]),
   (0xFB38, ["\u05d8\u05bc", "\u05d9\u05bc", "\u05da\u05bc", "\u05db\u05bc"]),
   (0xFB3C, ["\u05dc\u05bc"]), (0xFB3E, ["\u05de\u05bc"]),
   (0xFB40, ["\u05e0\u05bc", "\u05e1\u05bc"]), (0xFB43, ["\u05e3\u05bc", "\u05e4\u05bc"]),
   (0xFB46, ["\u05e6\u05bc", "\u05e7\u05bc", "\u05e8\u05bc", "\u05e9\u05bc"]),
   (0xFB4A, ["\u05ea\u05bc", "\u05d5\u05b9", "\u05d1\u05bf", "\u05db\u05bf"]),
   (0xFB4E, ["\u05e4\u05bf"]), (0x1D15E, ["𝅗𝅥", "𝅘𝅥", "𝅘𝅥𝅮", "𝅘𝅥𝅯", "𝅘𝅥𝅰", "𝅘𝅥𝅱", "𝅘𝅥𝅲"]),
   (0x1D1BB, ["𝆹𝅥", "𝆺𝅥", "𝆹𝅥𝅮", "𝆺𝅥𝅮", "𝆹𝅥𝅯", "𝆺𝅥𝅯"])]

/-- For each mark, characters that it follows and, in the same order, the characters that each of
them makes with it. -/
def markedLetters : List (Char × String × String) :=
  [('\u0300',
     "AEINOUWYaeinouwy\u00a8\u00c2\u00ca\u00d4",
     "\u00c0\u00c8\u00cc\u01f8\u00d2\u00d9\u1e80\u1ef2àèìǹòùẁỳ\u1fed\u1ea6\u1ec0\u1ed2"),
   ('\u0300',
     "\u00dcâêôü\u0102ă\u0112ē\u014cō\u01a0ơ\u01afư\u0391\u0395\u0397\u0399\u039f",
     "\u01dbầềồǜ\u1eb0ằ\u1e14ḕ\u1e50ṑ\u1edcờ\u1eeaừ\u1fba\u1fc8\u1fca\u1fda\u1ff8"),
   ('\u0300',
     "\u03a5\u03a9αεηιουωϊϋ\u0415\u0418еиἀἁ\u1f08\u1f09ἐἑ\u1f18\u1f19ἠἡ\u1f28\u1f29ἰἱ",
     "\u1fea\u1ffaὰὲὴὶὸὺὼῒῢ\u0400\u040dѐѝἂἃ\u1f0a\u1f0bἒἓ\u1f1a\u1f1bἢἣ\u1f2a\u1f2bἲἳ"),
   ('\u0300',
     "\u1f38\u1f39ὀὁ\u1f48\u1f49ὐὑ\u1f59ὠὡ\u1f68\u1f69\u1fbf\u1ffe",
     "\u1f3a\u1f3bὂὃ\u1f4a\u1f4bὒὓ\u1f5bὢὣ\u1f6a\u1f6b\u1fcd\u1fdd"),
   ('\u0301',
     "ACEGIKLMNOPRS",
     "\u00c1\u0106\u00c9\u01f4\u00cd\u1e30\u0139\u1e3e\u0143\u00d3\u1e54\u0154\u015a"),
   ('\u0301',
     "UWYZacegiklmnoprsuwyz\u00a8\u00c2\u00c5\u00c6\u00c7\u00ca",
     "\u00da\u1e82\u00dd\u0179áćéǵíḱĺḿńóṕŕśúẃýź\u0385\u1ea4\u01fa\u01fc\u1e08\u1ebe"),
   ('\u0301',
     "\u00cf\u00d4\u00d5\u00d8\u00dcâåæçêïôõøü\u0102ă\u0112ē\u014cō\u0168ũ\u01a0ơ",
     "\u1e2e\u1ed0\u1e4c\u01fe\u01d7ấǻǽḉếḯốṍǿǘ\u1eaeắ\u1e16ḗ\u1e52ṓ\u1e78ṹ\u1edaớ"),
   ('\u0301',
     "\u01afư\u0391\u0395\u0397\u0399\u039f\u03a5\u03a9αεηιουωϊϋ\u03d2\u0413\u041aгкἀἁ",
     "\u1ee8ứ\u0386\u0388\u0389\u038a\u038c\u038e\u038fάέήίόύώΐΰ\u03d3\u0403\u040cѓќἄἅ"),
   ('\u0301',
     "\u1f08\u1f09ἐἑ\u1f18\u1f19ἠἡ\u1f28\u1f29ἰἱ\u1f38\u1f39ὀὁ\u1f48\u1f49ὐὑ\u1f59ὠὡ",
     "\u1f0c\u1f0dἔἕ\u1f1c\u1f1dἤἥ\u1f2c\u1f2dἴἵ\u1f3c\u1f3dὄὅ\u1f4c\u1f4dὔὕ\u1f5dὤὥ"),
   ('\u0301', "\u1f68\u1f69\u1fbf\u1ffe", "\u1f6c\u1f6d\u1fce\u1fde"),
   ('\u0302',
     "ACEGHIJOSUWYZac",
     "\u00c2\u0108\u00ca\u011c\u0124\u00ce\u0134\u00d4\u015c\u00db\u0174\u0176\u1e90âĉ"),
   ('\u0302', "eghijosuwyz\u1ea0ạ\u1eb8ẹ\u1eccọ", "êĝĥîĵôŝûŵŷẑ\u1eacậ\u1ec6ệ\u1ed8ộ"),
   ('\u0303',
     "AEINOUVYaeinouvy\u00c2\u00ca\u00d4âêô",
     "\u00c3\u1ebc\u0128\u00d1\u00d5\u0168\u1e7c\u1ef8ãẽĩñõũṽỹ\u1eaa\u1ec4\u1ed6ẫễỗ"),
   ('\u0303', "\u0102ă\u01a0ơ\u01afư", "\u1eb4ẵ\u1ee0ỡ\u1eeeữ"),
   ('\u0304',
     "AEGIOUYaegiouy\u00c4\u00c6\u00d5\u00d6\u00dcä",
     "\u0100\u0112\u1e20\u012a\u014c\u016a\u0232āēḡīōūȳ\u01de\u01e2\u022c\u022a\u01d5ǟ"),
   ('\u0304',
     "æõöü\u01eaǫ\u0226ȧ\u022eȯ\u0391\u0399\u03a5αιυ\u0418\u0423иу\u1e36ḷ\u1e5aṛ",
     "ǣȭȫǖ\u01ecǭ\u01e0ǡ\u0230ȱ\u1fb9\u1fd9\u1fe9ᾱῑῡ\u04e2\u04eeӣӯ\u1e38ḹ\u1e5cṝ"),
   ('\u0306',
     "AEGIOUaegiou\u0228ȩ\u0391\u0399\u03a5αιυ\u0410",
     "\u0102\u0114\u011e\u012c\u014e\u016căĕğĭŏŭ\u1e1cḝ\u1fb8\u1fd8\u1fe8ᾰῐῠ\u04d0"),
   ('\u0306', "\u0415\u0416\u0418\u0423аежиу\u1ea0ạ", "\u04d6\u04c1\u0419\u040eӑӗӂйў\u1eb6ặ"),
   ('\u0307',
     "ABCDEFGHIMNOP",
     "\u0226\u1e02\u010a\u1e0a\u0116\u1e1e\u0120\u1e22\u0130\u1e40\u1e44\u022e\u1e56"),
   ('\u0307',
     "RSTWXYZabcdefghmnoprstwxyz\u015aś\u0160š",
     "\u1e58\u1e60\u1e6a\u1e86\u1e8a\u1e8e\u017bȧḃċḋėḟġḣṁṅȯṗṙṡṫẇẋẏż\u1e64ṥ\u1e66ṧ"),
   ('\u0307', "\u017f\u1e62ṣ𐗒𐗚", "\u1e9b\u1e68ṩ𐗉𐗤"),
   ('\u0308',
     "AEHIOUWXYaehiotuwxy\u00d5õ\u016aū",
     "\u00c4\u00cb\u1e26\u00cf\u00d6\u00dc\u1e84\u1e8c\u0178äëḧïöẗüẅẍÿ\u1e4eṏ\u1e7aṻ"),
   ('\u0308',
     "\u0399\u03a5ιυ\u03d2\u0406\u0410\u0415\u0416\u0417\u0418\u041e\u0423\u0427\u042b",
     "\u03aa\u03abϊϋ\u03d4\u0407\u04d2\u0401\u04dc\u04de\u04e4\u04e6\u04f0\u04f4\u04f8"),
   ('\u0308', "\u042dаежзиоучыэі\u04d8ә\u04e8ө", "\u04ecӓёӝӟӥӧӱӵӹӭї\u04daӛ\u04eaӫ"),
   ('\u0309',
     "AEIOUYaeiouy\u00c2\u00ca\u00d4âêô\u0102ă\u01a0ơ",
     "\u1ea2\u1eba\u1ec8\u1ece\u1ee6\u1ef6ảẻỉỏủỷ\u1ea8\u1ec2\u1ed4ẩểổ\u1eb2ẳ\u1edeở"),
   ('\u0309', "\u01afư", "\u1eecử"), ('\u030a', "AUauwy", "\u00c5\u016eåůẘẙ"),
   ('\u030b', "OUou\u0423у", "\u0150\u0170őű\u04f2ӳ"),
   ('\u030c',
     "ACDEGHIKLNORS",
     "\u01cd\u010c\u010e\u011a\u01e6\u021e\u01cf\u01e8\u013d\u0147\u01d1\u0158\u0160"),
   ('\u030c',
     "TUZacdeghijklnorstuz\u00dcü\u01b7ʒ",
     "\u0164\u01d3\u017dǎčďěǧȟǐǰǩľňǒřšťǔž\u01d9ǚ\u01eeǯ"),
   ('\u030f', "AEIORUaeioru\u0474ѵ", "\u0200\u0204\u0208\u020c\u0210\u0214ȁȅȉȍȑȕ\u0476ѷ"),
   ('\u0311', "AEIORUaeioru", "\u0202\u0206\u020a\u020e\u0212\u0216ȃȇȋȏȓȗ"),
   ('\u0313',
     "\u0391\u0395\u0397\u0399\u039f\u03a9αεηιορυω",
     "\u1f08\u1f18\u1f28\u1f38\u1f48\u1f68ἀἐἠἰὀῤὐὠ"),
   ('\u0314',
     "\u0391\u0395\u0397\u0399\u039f\u03a1\u03a5\u03a9αεηιορυω",
     "\u1f09\u1f19\u1f29\u1f39\u1f49\u1fec\u1f59\u1f69ἁἑἡἱὁῥὑὡ"),
   ('\u031b', "OUou", "\u01a0\u01afơư"),
   ('\u0323',
     "ABDEHIKLMNORS",
     "\u1ea0\u1e04\u1e0c\u1eb8\u1e24\u1eca\u1e32\u1e36\u1e42\u1e46\u1ecc\u1e5a\u1e62"),
   ('\u0323',
     "TUVWYZabdehiklmnorstuvwyz\u01a0ơ\u01afư",
     "\u1e6c\u1ee4\u1e7e\u1e88\u1ef4\u1e92ạḅḍẹḥịḳḷṃṇọṛṣṭụṿẉỵẓ\u1ee2ợ\u1ef0ự"),
   ('\u0324', "Uu", "\u1e72ṳ"), ('\u0325', "Aa", "\u1e00ḁ"), ('\u0326', "STst", "\u0218\u021așț"),
   ('\u0327',
     "CDEGHKLNRSTcdeghklnrst",
     "\u00c7\u1e10\u0228\u0122\u1e28\u0136\u013b\u0145\u0156\u015e\u0162çḑȩģḩķļņŗşţ"),
   ('\u0328', "AEIOUaeiou", "\u0104\u0118\u012e\u01ea\u0172ąęįǫų"),
   ('\u032d', "DELNTUdelntu", "\u1e12\u1e18\u1e3c\u1e4a\u1e70\u1e76ḓḙḽṋṱṷ"),
   ('\u032e', "Hh", "\u1e2aḫ"), ('\u0330', "EIUeiu", "\u1e1a\u1e2c\u1e74ḛḭṵ"),
   ('\u0331', "BDKLNRTZbdhklnrtz", "\u1e06\u1e0e\u1e34\u1e3a\u1e48\u1e5e\u1e6e\u1e94ḇḏẖḵḻṉṟṯẕ"),
   ('\u0338',
     "<=>←→↔⇐⇒⇔∃∈∋∣∥∼≃≅≈≍≡≤≥≲≳≶≷≺≻≼≽⊂⊃⊆⊇⊑⊒⊢⊨⊩⊫⊲⊳⊴⊵",
     "≮≠≯↚↛↮⇍⇏⇎∄∉∌∤∦≁≄≇≉≭≢≰≱≴≵≸≹⊀⊁⋠⋡⊄⊅⊈⊉⋢⋣⊬⊭⊮⊯⋪⋫⋬⋭"),
   ('\u0342',
     "\u00a8αηιυωϊϋἀἁ\u1f08\u1f09ἠἡ\u1f28\u1f29ἰἱ\u1f38\u1f39ὐὑ\u1f59ὠὡ\u1f68\u1f69",
     "\u1fc1ᾶῆῖῦῶῗῧἆἇ\u1f0e\u1f0fἦἧ\u1f2e\u1f2fἶἷ\u1f3e\u1f3fὖὗ\u1f5fὦὧ\u1f6e\u1f6f"),
   ('\u0342', "\u1fbf\u1ffe", "\u1fcf\u1fdf"),
   ('\u0345',
     "\u0391\u0397\u03a9άήαηωώἀἁἂἃ",
     "\u1fbc\u1fcc\u1ffc\u1fb4\u1fc4\u1fb3\u1fc3\u1ff3\u1ff4\u1f80\u1f81\u1f82\u1f83"),
   ('\u0345',
     "ἄἅἆἇ\u1f08\u1f09\u1f0a\u1f0b\u1f0c\u1f0d\u1f0e\u1f0fἠ",
     "\u1f84\u1f85\u1f86\u1f87\u1f88\u1f89\u1f8a\u1f8b\u1f8c\u1f8d\u1f8e\u1f8f\u1f90"),
   ('\u0345',
     "ἡἢἣἤἥἦἧ\u1f28\u1f29\u1f2a\u1f2b\u1f2c\u1f2d",
     "\u1f91\u1f92\u1f93\u1f94\u1f95\u1f96\u1f97\u1f98\u1f99\u1f9a\u1f9b\u1f9c\u1f9d"),
   ('\u0345',
     "\u1f2e\u1f2fὠὡὢὣὤὥὦὧ\u1f68\u1f69\u1f6a",
     "\u1f9e\u1f9f\u1fa0\u1fa1\u1fa2\u1fa3\u1fa4\u1fa5\u1fa6\u1fa7\u1fa8\u1fa9\u1faa"),
   ('\u0345',
     "\u1f6b\u1f6c\u1f6d\u1f6e\u1f6fὰὴὼᾶῆῶ",
     "\u1fab\u1fac\u1fad\u1fae\u1faf\u1fb2\u1fc2\u1ff2\u1fb7\u1fc7\u1ff7"),
   ('\u0653', "\u0627", "\u0622"),
   ('\u0654', "\u0627\u0648\u064a\u06c1\u06d2\u06d5", "\u0623\u0624\u0626\u06c2\u06d3\u06c0"),
   ('\u0655', "\u0627", "\u0625"), ('\u093c', "नरळ", "ऩऱऴ"), ('\u09be', "\u09c7", "\u09cb"),
   ('\u09d7', "\u09c7", "\u09cc"), ('\u0b3e', "\u0b47", "\u0b4b"), ('\u0b56', "\u0b47", "\u0b48"),
   ('\u0b57', "\u0b47", "\u0b4c"), ('\u0bbe', "\u0bc6\u0bc7", "\u0bca\u0bcb"),
   ('\u0bd7', "ஒ\u0bc6", "ஔ\u0bcc"), ('\u0c56', "\u0c46", "\u0c48"), ('\u0cc2', "\u0cc6", "\u0cca"),
   ('\u0cd5', "\u0cbf\u0cc6\u0cca", "\u0cc0\u0cc7\u0ccb"), ('\u0cd6', "\u0cc6", "\u0cc8"),
   ('\u0d3e', "\u0d46\u0d47", "\u0d4a\u0d4b"), ('\u0d57', "\u0d46", "\u0d4c"),
   ('\u0dca', "\u0dd9\u0ddc", "\u0dda\u0ddd"), ('\u0dcf', "\u0dd9", "\u0ddc"),
   ('\u0ddf', "\u0dd9", "\u0dde"), ('\u102e', "ဥ", "ဦ"),
   ('\u1b35', "ᬅᬇᬉᬋᬍᬑ\u1b3a\u1b3c\u1b3e\u1b3f\u1b42", "ᬆᬈᬊᬌᬎᬒ\u1b3b\u1b3d\u1b40\u1b41\u1b43"),
   ('\u3099',
     "うかきくけこさしすせそたちつてとはひふへほゝウカキクケコサシスセソタチツテトハヒフヘホワヰヱヲヽ",
     "ゔがぎぐげござじずぜぞだぢづでどばびぶべぼゞヴガギグゲゴザジズゼゾダヂヅデドバビブベボヷヸヹヺヾ"),
   ('\u309a', "はひふへほハヒフヘホ", "ぱぴぷぺぽパピプペポ"), ('𑂺', "𑂙𑂛𑂥", "𑂚𑂜𑂫"), ('𑄧', "𑄱𑄲", "𑄮𑄯"), ('𑌾', "𑍇", "𑍋"),
   ('𑍗', "𑍇", "𑍌"), ('𑎸', "𑏂", "𑏇"), ('𑎻', "𑎄", "𑎅"), ('𑏂', "𑎎", "𑎎𑏅"), ('𑏉', "𑎂𑎐𑏂", "𑎃𑎑𑏈"),
   ('𑒰', "𑒹", "𑒼"), ('𑒺', "𑒹", "𑒻"), ('𑒽', "𑒹", "𑒾"), ('𑖯', "𑖸𑖹", "𑖺𑖻"), ('𑤰', "𑤵", "𑤸"),
   ('𖄞', "𖄞", "𖄡"), ('𖄟', "𖄡𖄡𖄩𖄩", "𖄣𖄦𖄧𖄤"), ('𖄠', "𖄡𖄞", "𖄥𖄨"), ('𖄩', "𖄞", "𖄢"), ('𖵧', "𖵩𖵩", "𖵪𖵧𖵪")]

end Curator.Text
