import PolicyServer.Text.Shapeless

/-! Folding: what each character of a host's name is taken for, in whatever case or width it is. -/

namespace PolicyServer.Host

open Text

/-- How the characters of a stretch are folded, every one or every `step`th: to characters in a row,
or each to the same text. -/
structure Fold where
  stretch : Stretch
  step : Nat
  target : List Nat

/-- The folds of a word: `41-5A=61`, `100-2E/2=101`, or `BC:1⁄4,1⁄2,3⁄4` for characters in a row that are
folded to texts of their own, which need no commas if all are single characters. Texts may be given by
their code points, as in `A8=20.308`. -/
def Fold.ofWord (word : String) : List Fold :=
  let inRow (stretch : Stretch) (step : Nat) (targets : List (List Nat)) : List Fold :=
    targets.zipIdx.map fun (target, place) =>
      ⟨⟨stretch.first + place, stretch.last + place⟩, step, target⟩
  match word.splitOn ":", word.splitOn "=" with
  | [first, texts], _ =>
    let texts := if texts.contains ',' then (texts.splitOn ",").map (·.toList) else texts.toList.map ([·])
    inRow (.ofWord first) 1 (texts.map (·.map Char.toNat))
  | _, [source, targets] =>
    let (stretch, step) : Stretch × Nat :=
      match source.splitOn "/" with
      | [stretch, step] => (.ofWord stretch, hexNumber step)
      | _ => (.ofWord source, 1)
    inRow stretch step ((targets.splitOn ",").map fun target => (target.splitOn ".").map hexNumber)
  | _, _ => [⟨.ofWord word, 1, []⟩]

def Fold.image? (fold : Fold) (c : Char) : Option (List Char) :=
  let distance := c.toNat - fold.stretch.first
  if fold.stretch.holds c && distance % fold.step = 0 then
    match fold.target with
    | [code] => some [Char.ofNat (code + distance)]
    | codes => some (codes.map Char.ofNat)
  else none

/-- Characters that no name has, besides those that stand for nothing. -/
def barred : List Stretch := Stretch.ofTable [
  "2024-6 2488-9B 2FF0-F 31EF 33C2 33C7 33D8 FE12 FE19 FE30 FE52 FFFC-D 1F100"]

/-- Characters that count for nothing. -/
def ignored : List Stretch := Stretch.ofTable [
  "AD 34F 115F-60 17B4-5 180B-F 200B 2060-4 206A-F 3164 FE00-F FEFF FFA0 1BCA0-3 1D173-A E0100-EF"]

def folds : List Fold :=
  (wordsOf [
    "41-5A=61 A0=20 A8=20.308 AA:a AF=20.304 B2=32,33,20.301,3BC B8=20.327,31,6F BC:1⁄4,1⁄2,3⁄4",
    "C0-D6=E0 D8-E=F8 100-2E/2=101 130=69.307 132:ij,ij 134-6/2=135 139-D/2=13A 13F:l·,l·",
    "141-7/2=142 149=2BC.6E 14A-76/2=14B 178=FF 179-D/2=17A 17F:s 181:ɓ 182-4/2=183 186:ɔƈ",
    "189:ɖɗƌ 18E:ǝəɛƒ 193:ɠɣ 196:ɩɨƙ 19C:ɯɲ 19F:ɵ 1A0-4/2=1A1 1A6:ʀƨ 1A9:ʃ 1AC:ƭ 1AE:ʈư 1B1:ʊʋ",
    "1B3-5/2=1B4 1B7:ʒƹ 1BC:ƽ 1C4:dž,dž,dž,lj,lj,lj,nj,nj,nj 1CD-DB/2=1CE 1DE-EE/2=1DF",
    "1F1:dz,dz,dz,ǵ 1F6:ƕƿ 1F8-21E/2=1F9 220:ƞ 222-32/2=223 23A:ⱥȼ 23D:ƚⱦ 241:ɂ 243:ƀʉʌ",
    "246-E/2=247 2B0-2/2=68 2B1:ɦ 2B3:rɹɻʁwy 2D8=20.306,20.307,20.30A,20.328,20.303,20.30B",
    "2E0:ɣlsxʕ 340=300,301 343=313,308.301,3B9 370-2/2=371 374=2B9 376:ͷ 37A=20.3B9 37E=3B,3F3",
    "384=20.301,20.308.301 386:ά·έήί 38C:ό 38E:ύώ 391-A1=3B1 3A3-B=3C3 3CF:ϗβθυύϋφπ 3D8-EE/2=3D9",
    "3F0:κρσ 3F4:θε 3F7:ϸ 3F9:σϻ 3FD:ͻͼͽ 400-F=450 410-2F=430 460-80/2=461 48A-BE/2=48B 4C0:ӏ",
    "4C1-D/2=4C2 4D0-52E/2=4D1 531-56=561 587=565.582 675=627.674,648.674,6C7.674,64A.674",
    "958=915.93C,916.93C,917.93C,91C.93C,921.93C,922.93C,92B.93C,92F.93C 9DC=9A1.9BC,9A2.9BC",
    "9DF=9AF.9BC A33=A32.A3C A36=A38.A3C A59=A16.A3C,A17.A3C,A1C.A3C A5E=A2B.A3C",
    "B5C=B21.B3C,B22.B3C E33=E4D.E32 EB3=ECD.EB2 EDC:ຫນ,ຫມ F0C=F0B F43=F42.FB7 F4D=F4C.FB7",
    "F52=F51.FB7 F57=F56.FB7 F5C=F5B.FB7 F69=F40.FB5 F73=F71.F72",
    "F75=F71.F74,FB2.F80,FB2.F71.F80,FB3.F80,FB3.F71.F80 F81=F71.F80 F93=F92.FB7 F9D=F9C.FB7",
    "FA2=FA1.FB7 FA7=FA6.FB7 FAC=FAB.FB7 FB9=F90.FB5 10A0-C5=2D00 10C7:ⴧ 10CD:ⴭ 10FC:ნ",
    "13F8-D=13F0 1C80:вдосттъѣꙋ 1C89=1C8A 1C90-BA=10D0 1CBD:ჽჾჿ 1D2C:aæ 1D2E-30/2=62 1D31-9/2=65",
    "1D32:ǝ 1D34-A/2=68 1D3C:oȣprtuwaɐɑᴂbdeəɛɜg 1D4F:k 1D50-2/2=6D 1D51:ŋ",
    "1D53:ɔᴖᴗptuᴝɯvᴥβγδφχiruvβγρφχ 1D78:н 1D9B:ɒcɕðɜfɟɡɥɨɩɪᵻʝɭᶅʟɱɰ 1DAE-B1=272",
    "1DB2:ɸʂʃƫʉʊᴜʋʌzʐʑʒθ 1E00-94/2=1E01 1E9A=61.2BE,1E61 1E9E=DF 1EA0-FE/2=1EA1 1F08-F=1F00",
    "1F18-D=1F10 1F28-F=1F20 1F38-F=1F30 1F48-D=1F40 1F59-F/2=1F51 1F68-F=1F60 1F71:ά 1F73:έ",
    "1F75:ή 1F77:ί 1F79:ό 1F7B:ύ 1F7D:ώ 1F80:ἀι,ἁι,ἂι,ἃι,ἄι,ἅι,ἆι,ἇι,ἀι,ἁι,ἂι,ἃι,ἄι,ἅι,ἆι,ἇι",
    "1F90:ἠι,ἡι,ἢι,ἣι,ἤι,ἥι,ἦι,ἧι,ἠι,ἡι,ἢι,ἣι,ἤι,ἥι,ἦι,ἧι",
    "1FA0:ὠι,ὡι,ὢι,ὣι,ὤι,ὥι,ὦι,ὧι,ὠι,ὡι,ὢι,ὣι,ὤι,ὥι,ὦι,ὧι 1FB2:ὰι,αι,άι 1FB7:ᾶι,ᾰ,ᾱ,ὰ,ά,αι",
    "1FBD=20.313,3B9,20.313,20.342,20.308.342 1FC2:ὴι,ηι,ήι 1FC7=1FC6.3B9 1FC8-A/2=1F72 1FC9:έ",
    "1FCB=3AE,3B7.3B9,20.313.300,20.313.301,20.313.342 1FD3:ΐ 1FD8:ῐῑὶί",
    "1FDD=20.314.300,20.314.301,20.314.342 1FE3:ΰ 1FE8:ῠῡὺύῥ 1FED=20.308.300,20.308.301,60",
    "1FF2:ὼι,ωι,ώι 1FF7:ῶι,ὸ 1FF9-B/2=3CC 1FFA:ὼ 1FFC=3C9.3B9,20.301,20.314",
    "2000=20,20,20,20,20,20,20,20,20,20,20 2011:‐ 2017=20.333 202F=20 2033:′′,′′′ 2036:‵‵,‵‵‵",
    "203C=21.21 203E=20.305 2047:??,?!,!? 2057=2032.2032.2032.2032 205F=20 2070:0i 2074-9=34",
    "207A=2B,2212,3D,28,29,6E 2080-9=30 208A=2B,2212,3D,28,29 2090:aeoxəh 2096-9=6B 209A:pst",
    "20A8=72.73 2100:a/c,a/s,c,°c 2105:c/o,c/u,ɛ 2109:°f,g 210B:hhhhħiil 2113-5/2=6C 2116=6E.6F",
    "2119:pqrrr 2120:sm,tel,tm 2124:z 2126:ω 2128:z 212A:kåbc 212F:eefⅎmo 2135-8=5D0 2139:i",
    "213B:fax,π,γ,γ,π,∑ 2145:ddeij",
    "2150:1⁄7,1⁄9,1⁄10,1⁄3,2⁄3,1⁄5,2⁄5,3⁄5,4⁄5,1⁄6,5⁄6,1⁄8,3⁄8,5⁄8,7⁄8,1⁄",
    "2160:i,ii,iii,iv,v,vi,vii,viii,ix,x,xi,xii,l,c,d,m",
    "2170:i,ii,iii,iv,v,vi,vii,viii,ix,x,xi,xii,l,c,d,m 2183:ↄ 2189=30.2044.33 222C:∫∫,∫∫∫",
    "222F:∮∮,∮∮∮ 2329:〈〉 2460-8=31 2469:10,11,12,13,14,15,16,17,18,19,20,(1),(2),(3),(4)",
    "2478:(5),(6),(7),(8),(9),(10),(11),(12),(13),(14),(15),(16),(17),(18),(19),(20)",
    "249C:(a),(b),(c),(d),(e),(f),(g),(h),(i),(j)",
    "24A6:(k),(l),(m),(n),(o),(p),(q),(r),(s),(t),(u),(v),(w),(x),(y),(z) 24B6-CF=61 24D0-E9=61",
    "24EA:0 2A0C=222B.222B.222B.222B 2A74=3A.3A.3D,3D.3D,3D.3D.3D 2ADC=2ADD.338 2C00-2F=2C30",
    "2C60:ⱡ 2C62:ɫᵽɽ 2C67-B/2=2C68 2C6D:ɑɱɐɒ 2C72:ⱳ 2C75:ⱶ 2C7C:jvȿɀ 2C80-E2/2=2C81 2CEB-D/2=2CEC",
    "2CF2:ⳳ 2D6F:ⵡ 2E9F:母 2EF3:龟",
    "2F00:一丨丶丿乙亅二亠人儿入八冂冖冫几凵刀力勹匕匚匸十卜卩厂厶又口囗土士夂",
    "2F22:夊夕大女子宀寸小尢尸屮山巛工己巾干幺广廴廾弋弓彐彡彳心戈戶手支攴文斗斤方",
    "2F46:无日曰月木欠止歹殳毋比毛氏气水火爪父爻爿片牙牛犬玄玉瓜瓦甘生用田疋疒癶白",
    "2F6A:皮皿目矛矢石示禸禾穴立竹米糸缶网羊羽老而耒耳聿肉臣自至臼舌舛舟艮色艸虍虫",
    "2F8E:血行衣襾見角言谷豆豕豸貝赤走足身車辛辰辵邑酉釆里金長門阜隶隹雨靑非面革韋",
    "2FB2:韭音頁風飛食首香馬骨高髟鬥鬯鬲鬼魚鳥鹵鹿麥麻黃黍黑黹黽鼎鼓鼠鼻齊齒龍龜龠 3000=20",
    "3002=2E 3036:〒 3038:十卄卅 309B=20.3099,20.309A 309F=3088.308A 30FF=30B3.30C8",
    "3131=1100,1101 3133-5/2=11AA 3134=1102 3136=11AD,1103,1104,1105 313A-F=11B0",
    "3140=111A,1106,1107,1108,1121 3145-E=1109 314F-63=1161 3165=1114,1115",
    "3167=11C7,11C8,11CC,11CE,11D3,11D7,11D9,111C,11DD,11DF,111D,111E,1120,1122,1123,1127,1129",
    "3178-C=112B 317D=1132",
    "317E=1136,1140,1147,114C,11F1,11F2,1157,1158,1159,1184,1185,1188,1191,1192,1194,119E,11A1",
    "3192:一二三四上中下甲乙丙丁天地人",
    "3200=28.1100.29,28.1102.29,28.1103.29,28.1105.29,28.1106.29,28.1107.29,28.1109.29",
    "3207=28.110B.29,28.110C.29,28.110E.29,28.110F.29,28.1110.29,28.1111.29,28.1112.29",
    "320E:(가),(나)",
    "3210:(다),(라),(마),(바),(사),(아),(자),(차),(카),(타),(파),(하),(주),(오전),(오후)",
    "3220:(一),(二),(三),(四),(五),(六),(七),(八)",
    "3228:(九),(十),(月),(火),(水),(木),(金),(土),(日),(株),(有),(社),(名),(特),(財),(祝)",
    "3238:(労),(代),(呼),(学),(監),(企),(資),(協),(祭),(休),(自),(至),問,幼,文,箏",
    "3250:pte,21,22,23,24,25,26,27,28,29,30,31,32,33,34,35",
    "3260=1100,1102,1103,1105,1106,1107,1109,110B,110C 3269-D=110E",
    "326E:가나다라마바사아자차카타파하 327C:참고,주의,우 3280:一二三四五六七八九十月火水",
    "328D:木金土日株有社名特財祝労秘男女適優印注項休写正上中下左右医宗学監企資協夜",
    "32B1:36,37,38,39,40,41,42,43,44,45,46,47,48,49,50",
    "32C0:1月,2月,3月,4月,5月,6月,7月,8月,9月,10月,11月,12月,hg,erg,ev,ltd",
    "32D0:アイウエオカキクケコサシスセソタチツテト 32E4-9=30CA 32EA:ヒフヘホ 32EE-F2=30DE",
    "32F3:ヤユ 32F5-A=30E8 32FB-E=30EF 32FF=4EE4.548C,30A2.30D1.30FC.30C8 3301:アルファ,アンペア",
    "3303=30A2.30FC.30EB 3304:イニング,インチ,ウォン",
    "3307=30A8.30B9.30AF.30FC.30C9,30A8.30FC.30AB.30FC,30AA.30F3.30B9,30AA.30FC.30E0",
    "330B:カイリ,カラット 330D=30AB.30ED.30EA.30FC 330E:ガロン,ガンマ,ギガ",
    "3311=30AE.30CB.30FC,30AD.30E5.30EA.30FC,30AE.30EB.30C0.30FC 3314:キロ,キログラム",
    "3316=30AD.30ED.30E1.30FC.30C8.30EB 3317:キロワット,グラム,グラムトン,クルゼイロ",
    "331B=30AF.30ED.30FC.30CD,30B1.30FC.30B9",
    "331D=30B3.30EB.30CA,30B3.30FC.30DD,30B5.30A4.30AF.30EB,30B5.30F3.30C1.30FC.30E0",
    "3321:シリング,センチ,セント 3324=30C0.30FC.30B9 3325:デシ,ドル,トン,ナノ,ノット,ハイツ",
    "332B=30D1.30FC.30BB.30F3.30C8,30D1.30FC.30C4,30D0.30FC.30EC.30EB",
    "332E:ピアストル,ピクル,ピコ,ビル,ファラッド 3333=30D5.30A3.30FC.30C8 3334:ブッシェル,フラン",
    "3336=30D8.30AF.30BF.30FC.30EB 3337:ペソ,ペニヒ,ヘルツ,ペンス",
    "333B=30DA.30FC.30B8,30D9.30FC.30BF 333D:ポイント,ボルト,ホン,ポンド",
    "3341=30DB.30FC.30EB,30DB.30FC.30F3",
    "3343:マイクロ,マイル,マッハ,マルク,マンション,ミクロン,ミリ 334A=30DF.30EA.30D0.30FC.30EB",
    "334B:メガ,メガトン 334D=30E1.30FC.30C8.30EB,30E4.30FC.30C9,30E4.30FC.30EB",
    "3350:ユアン,リットル,リラ 3353=30EB.30D4.30FC,30EB.30FC.30D6.30EB",
    "3355:レム,レントゲン,ワット,0点,1点,2点,3点,4点,5点,6点,7点,8点,9点",
    "3362:10点,11点,12点,13点,14点,15点,16点,17点,18点,19点,20点,21点,22点,23点,24点,hpa",
    "3372:da,au,bar,ov,pc,dm,dm2,dm3,iu,平成,昭和,大正,明治,株式会社,pa,na",
    "3382:μa,ma,ka,kb,mb,gb,cal,kcal,pf,nf,μf,μg,mg,kg,hz,khz",
    "3392:mhz,ghz,thz,μl,ml,dl,kl,fm,nm,μm,mm,cm,km,mm2,cm2,m2",
    "33A2:km2,mm3,cm3,m3,km3,m∕s,m∕s2,pa,kpa,mpa,gpa,rad,rad∕s,rad∕s2,ps,ns",
    "33B2:μs,ms,pv,nv,μv,mv,kv,mv,pw,nw,μw,mw,kw,mw,kω,mω 33C3:bq,cc,cd,c∕kg",
    "33C8:db,gy,ha,hp,in,kk,km,kt,lm,ln,log,lx,mb,mil,mol,ph 33D9:ppm,pr,sr,sv,wb,v∕m,a∕m",
    "33E0:1日,2日,3日,4日,5日,6日,7日,8日,9日,10日,11日,12日,13日,14日,15日,16日",
    "33F0:17日,18日,19日,20日,21日,22日,23日,24日,25日,26日,27日,28日,29日,30日,31日,gal",
    "A640-6C/2=A641 A680-9A/2=A681 A69C:ъь A722-E/2=A723 A732-6E/2=A733 A770:ꝯ A779-B/2=A77A",
    "A77D:ᵹ A77E-86/2=A77F A78B:ꞌ A78D:ɥ A790-2/2=A791 A796-A8/2=A797 A7AA:ɦɜɡɬɪ A7B0:ʞʇʝꭓ",
    "A7B4-C2/2=A7B5 A7C4:ꞔʂᶎ A7C7-9/2=A7C8 A7CB:ɤ A7CC-DA/2=A7CD A7DC:ƛ A7F1:scfqꟶ A7F8:ħœ",
    "AB5C:ꜧꬷɫꭒ AB69:ʍ AB70-BF=13A0 F900:豈更車賈滑串句龜龜契金喇奈懶癩羅蘿螺",
    "F912:裸邏樂洛烙珞落酪駱亂卵欄爛蘭鸞嵐濫藍襤拉臘蠟廊朗浪狼郎來冷勞擄櫓爐盧老蘆",
    "F936:虜路露魯鷺碌祿綠菉錄鹿論壟弄籠聾牢磊賂雷壘屢樓淚漏累縷陋勒肋凜凌稜綾菱陵",
    "F95A:讀拏樂諾丹寧怒率異北磻便復不泌數索參塞省葉說殺辰沈拾若掠略亮兩凉梁糧良諒",
    "F97E:量勵呂女廬旅濾礪閭驪麗黎力曆歷轢年憐戀撚漣煉璉秊練聯輦蓮連鍊列劣咽烈裂說",
    "F9A2:廉念捻殮簾獵令囹寧嶺怜玲瑩羚聆鈴零靈領例禮醴隸惡了僚寮尿料樂燎療蓼遼龍暈",
    "F9C6:阮劉杻柳流溜琉留硫紐類六戮陸倫崙淪輪律慄栗率隆利吏履易李梨泥理痢罹裏裡里",
    "F9EA:離匿溺吝燐璘藺隣鱗麟林淋臨立笠粒狀炙識什茶刺切度拓糖宅洞暴輻行降見廓兀嗀 FA10:塚",
    "FA12:晴 FA15:凞猪益礼神祥福靖精羽 FA20:蘒 FA22:諸 FA25:逸都",
    "FA2A:飯飼館鶴郞隷侮僧免勉勤卑喝嘆器塀墨層屮悔慨憎懲敏既暑梅海渚漢煮爫",
    "FA4A:琢碑社祉祈祐祖祝禍禎穀突節練縉繁署者臭艹艹著褐視謁謹賓贈辶逸難響頻恵𤋮舘",
    "FA70:並况全侀充冀勇勺喝啕喙嗢塚墳奄奔婢嬨廒廙彩徭惘慎愈憎慠懲戴揄搜摒敖晴",
    "FA92:朗望杖歹殺流滛滋漢瀞煮瞧爵犯猪瑱甆画瘝瘟益盛直睊着磌窱節类絛練缾者荒華蝹",
    "FAB6:襁覆視調諸請謁諾諭謹變贈輸遲醙鉶陼難靖韛響頋頻鬒龜𢡊𢡄𣏕㮝䀘䀹𥉉𥳐𧻓齃龎",
    "FB00:ff,fi,fl,ffi,ffl,st,st FB13:մն,մե,մի,վն,մխ FB1D=5D9.5B4",
    "FB1F=5F2.5B7,5E2,5D0,5D3,5D4,5DB,5DC,5DD,5E8,5EA,2B,5E9.5C1,5E9.5C2,5E9.5BC.5C1",
    "FB2D=5E9.5BC.5C2,5D0.5B7,5D0.5B8,5D0.5BC,5D1.5BC,5D2.5BC,5D3.5BC,5D4.5BC,5D5.5BC,5D6.5BC",
    "FB38=5D8.5BC,5D9.5BC,5DA.5BC,5DB.5BC,5DC.5BC FB3E=5DE.5BC FB40=5E0.5BC,5E1.5BC",
    "FB43=5E3.5BC,5E4.5BC FB46=5E6.5BC,5E7.5BC,5E8.5BC,5E9.5BC",
    "FB4A=5EA.5BC,5D5.5B9,5D1.5BF,5DB.5BF,5E4.5BF,5D0.5DC,671,671,67B,67B,67B,67B,67E,67E",
    "FB58-A/2=67E FB59-B/2=67E",
    "FB5C=680,680,67A,67A,67A,67A,67F,67F,67F,67F,679,679,679,679,6A4,6A4 FB6C-E/2=6A4",
    "FB6D-F/2=6A4",
    "FB70=6A6,6A6,684,684,684,684,683,683,683,683,686,686,686,686,687,687,687,687,68D,68D",
    "FB84-6/2=68C FB85-7/2=68C",
    "FB88=688,688,698,698,691,691,6A9,6A9,6A9,6A9,6AF,6AF,6AF,6AF,6B3,6B3,6B3,6B3,6B1,6B1,6B1",
    "FB9D=6B1,6BA,6BA,6BB,6BB,6BB,6BB,6C0,6C0,6C1,6C1,6C1,6C1,6BE,6BE,6BE,6BE,6D2,6D2,6D3,6D3",
    "FBD3=6AD,6AD,6AD,6AD,6C7,6C7 FBD9-B/2=6C6 FBDA-C/2=6C6",
    "FBDD=6C7.674,6CB,6CB,6C5,6C5,6C9,6C9,6D0,6D0,6D0,6D0,649,649,626.627",
    "FBEB=626.627,626.6D5,626.6D5,626.648,626.648,626.6C7,626.6C7,626.6C6,626.6C6,626.6C8",
    "FBF5=626.6C8,626.6D0,626.6D0,626.6D0,626.649,626.649,626.649,6CC,6CC,6CC,6CC,626.62C",
    "FC01=626.62D,626.645,626.649,626.64A,628.62C,628.62D,628.62E,628.645,628.649,628.64A",
    "FC0B=62A.62C,62A.62D,62A.62E,62A.645,62A.649,62A.64A,62B.62C,62B.645,62B.649,62B.64A",
    "FC15=62C.62D,62C.645,62D.62C,62D.645,62E.62C,62E.62D,62E.645,633.62C,633.62D,633.62E",
    "FC1F=633.645,635.62D,635.645,636.62C,636.62D,636.62E,636.645,637.62D,637.645,638.645",
    "FC29=639.62C,639.645,63A.62C,63A.645,641.62C,641.62D,641.62E,641.645,641.649,641.64A",
    "FC33=642.62D,642.645,642.649,642.64A,643.627,643.62C,643.62D,643.62E,643.644,643.645",
    "FC3D=643.649,643.64A,644.62C,644.62D,644.62E,644.645,644.649,644.64A,645.62C,645.62D",
    "FC47=645.62E,645.645,645.649,645.64A,646.62C,646.62D,646.62E,646.645,646.649,646.64A",
    "FC51=647.62C,647.645,647.649,647.64A,64A.62C,64A.62D,64A.62E,64A.645,64A.649,64A.64A",
    "FC5B=630.670,631.670,649.670,20.64C.651,20.64D.651,20.64E.651,20.64F.651,20.650.651",
    "FC63=20.651.670,626.631,626.632,626.645,626.646,626.649,626.64A,628.631,628.632,628.645",
    "FC6D=628.646,628.649,628.64A,62A.631,62A.632,62A.645,62A.646,62A.649,62A.64A,62B.631",
    "FC77=62B.632,62B.645,62B.646,62B.649,62B.64A,641.649,641.64A,642.649,642.64A,643.627",
    "FC81=643.644,643.645,643.649,643.64A,644.645,644.649,644.64A,645.627,645.645,646.631",
    "FC8B=646.632,646.645,646.646,646.649,646.64A,649.670,64A.631,64A.632,64A.645,64A.646",
    "FC95=64A.649,64A.64A,626.62C,626.62D,626.62E,626.645,626.647,628.62C,628.62D,628.62E",
    "FC9F=628.645,628.647,62A.62C,62A.62D,62A.62E,62A.645,62A.647,62B.645,62C.62D,62C.645",
    "FCA9=62D.62C,62D.645,62E.62C,62E.645,633.62C,633.62D,633.62E,633.645,635.62D,635.62E",
    "FCB3=635.645,636.62C,636.62D,636.62E,636.645,637.62D,638.645,639.62C,639.645,63A.62C",
    "FCBD=63A.645,641.62C,641.62D,641.62E,641.645,642.62D,642.645,643.62C,643.62D,643.62E",
    "FCC7=643.644,643.645,644.62C,644.62D,644.62E,644.645,644.647,645.62C,645.62D,645.62E",
    "FCD1=645.645,646.62C,646.62D,646.62E,646.645,646.647,647.62C,647.645,647.670,64A.62C",
    "FCDB=64A.62D,64A.62E,64A.645,64A.647,626.645,626.647,628.645,628.647,62A.645,62A.647",
    "FCE5=62B.645,62B.647,633.645,633.647,634.645,634.647,643.644,643.645,644.645,646.645",
    "FCEF=646.647,64A.645,64A.647,640.64E.651,640.64F.651,640.650.651,637.649,637.64A,639.649",
    "FCF8=639.64A,63A.649,63A.64A,633.649,633.64A,634.649,634.64A,62D.649,62D.64A,62C.649",
    "FD02=62C.64A,62E.649,62E.64A,635.649,635.64A,636.649,636.64A,634.62C,634.62D,634.62E",
    "FD0C=634.645,634.631,633.631,635.631,636.631,637.649,637.64A,639.649,639.64A,63A.649",
    "FD16=63A.64A,633.649,633.64A,634.649,634.64A,62D.649,62D.64A,62C.649,62C.64A,62E.649",
    "FD20=62E.64A,635.649,635.64A,636.649,636.64A,634.62C,634.62D,634.62E,634.645,634.631",
    "FD2A=633.631,635.631,636.631,634.62C,634.62D,634.62E,634.645,633.647,634.647,637.645",
    "FD34=633.62C,633.62D,633.62E,634.62C,634.62D,634.62E,637.645,638.645,627.64B,627.64B",
    "FD50=62A.62C.645",
    "FD51=62A.62D.62C,62A.62D.62C,62A.62D.645,62A.62E.645,62A.645.62C,62A.645.62D,62A.645.62E",
    "FD58=62C.645.62D,62C.645.62D,62D.645.64A,62D.645.649,633.62D.62C,633.62C.62D,633.62C.649",
    "FD5F=633.645.62D,633.645.62D,633.645.62C,633.645.645,633.645.645,635.62D.62D,635.62D.62D",
    "FD66=635.645.645,634.62D.645,634.62D.645,634.62C.64A,634.645.62E,634.645.62E,634.645.645",
    "FD6D=634.645.645,636.62D.649,636.62E.645,636.62E.645,637.645.62D,637.645.62D,637.645.645",
    "FD74=637.645.64A,639.62C.645,639.645.645,639.645.645,639.645.649,63A.645.645,63A.645.64A",
    "FD7B=63A.645.649,641.62E.645,641.62E.645,642.645.62D,642.645.645,644.62D.645,644.62D.64A",
    "FD82=644.62D.649,644.62C.62C,644.62C.62C,644.62E.645,644.62E.645,644.645.62D,644.645.62D",
    "FD89=645.62D.62C,645.62D.645,645.62D.64A,645.62C.62D,645.62C.645,645.62E.62C,645.62E.645",
    "FD92=645.62C.62E,647.645.62C,647.645.645,646.62D.645,646.62D.649",
    "FD97=646.62C.645,646.62C.645,646.62C.649,646.645.64A,646.645.649,64A.645.645,64A.645.645",
    "FD9E=628.62E.64A,62A.62C.64A,62A.62C.649,62A.62E.64A,62A.62E.649,62A.645.64A,62A.645.649",
    "FDA5=62C.645.64A,62C.62D.649,62C.645.649,633.62E.649,635.62D.64A,634.62D.64A,636.62D.64A",
    "FDAC=644.62C.64A,644.645.64A,64A.62D.64A,64A.62C.64A,64A.645.64A,645.645.64A,642.645.64A",
    "FDB3=646.62D.64A,642.645.62D,644.62D.645,639.645.64A,643.645.64A,646.62C.62D,645.62E.64A",
    "FDBA=644.62C.645,643.645.645,644.62C.645,646.62C.62D,62C.62D.64A,62D.62C.64A,645.62C.64A",
    "FDC1=641.645.64A,628.62D.64A,643.645.645,639.62C.645,635.645.645,633.62E.64A,646.62C.64A",
    "FDF0=635.644.6D2,642.644.6D2,627.644.644.647,627.643.628.631",
    "FDF4=645.62D.645.62F,635.644.639.645,631.633.648.644,639.644.64A.647,648.633.644.645",
    "FDF9=635.644.649,635.644.649.20.627.644.644.647.20.639.644.64A.647.20.648.633.644.645",
    "FDFB=62C.644.20.62C.644.627.644.647,631.6CC.627.644 FE10=2C,3001 FE13=3A,3B FE15:!?〖〗",
    "FE31:—–__() FE37=7B,7D FE39:〔〕【】《》〈〉 FE41-4=300C",
    "FE47=5B,5D,20.305,20.305,20.305,20.305,5F,5F,5F,2C,3001 FE54=3B,3A,3F,21,2014,28,29,7B,7D",
    "FE5D:〔〕#&*+-<> FE66=3D FE68=5C,24,25,40 FE70=20.64B,640.64B,20.64C FE74=20.64D",
    "FE76=20.64E,640.64E,20.64F",
    "FE79=640.64F,20.650,640.650,20.651,640.651,20.652,640.652,621,622,622,623,623,624,624",
    "FE87=625,625,626,626,626,626,627,627,628,628,628,628,629,629,62A,62A,62A,62A,62B,62B,62B",
    "FE9C=62B,62C,62C,62C,62C,62D,62D,62D,62D,62E,62E,62E,62E,62F,62F,630,630,631,631,632,632",
    "FEB1=633,633,633,633,634,634,634,634,635,635,635,635,636,636,636,636,637,637,637,637,638",
    "FEC6=638,638,638,639,639,639,639,63A,63A,63A,63A,641,641,641,641,642,642,642,642,643,643",
    "FEDB=643,643,644,644,644,644,645,645,645,645,646,646,646,646,647,647,647,647,648,648,649",
    "FEF0=649,64A,64A,64A,64A,644.622,644.622,644.623,644.623,644.625,644.625,644.627,644.627",
    "FF01-20=21 FF21-3A=61 FF3B-5E=5B FF5F=2985,2986,2E FF62:「」、・ヲァィゥェォャュョッ",
    "FF70=30FC FF71:アイウエオカキクケコサシスセソタチツテト FF85-A=30CA FF8B:ヒフヘホ",
    "FF8F-93=30DE FF94:ヤユ FF96-B=30E8 FF9C=30EF,30F3,3099,309A FFA1=1100,1101 FFA3-5/2=11AA",
    "FFA4=1102 FFA6=11AD,1103,1104,1105 FFAA-F=11B0 FFB0=111A,1106,1107,1108,1121 FFB5-E=1109",
    "FFC2-7=1161 FFCA-F=1167 FFD2-7=116D FFDA=1173,1174,1175 FFE0=A2,A3,AC,20.304,A6,A5,20A9",
    "FFE8:│ FFE9-C=2190 FFED:■○ 10400-27=10428 104B0-D3=104D8 10570-94/2=10597 10571-9/2=10598",
    "1057D-89/2=105A4 1058D-91/2=105B4 10595:𐖼 10781=2D0,2D1,E6,299,253 10787-9/2=2A3 10788:ꭦ",
    "1078A:ʤɖɗ 1078D:ᶑɘɞʩɤɢɠʛħʜɧʄʪʫɬ𝼄ꞎɮ𝼅ʎ𝼆øɶɷqɺ𝼈ɽɾʀʨʦꭧʧʈⱱ 107B2:ʏʡʢʘǀǁǂ𝼊𝼞 10C80-B2=10CC0",
    "10D50-65=10D70 118A0-BF=118C0 16E40-5F=16E60 16EA0-B8=16EBB 1CCD6-EF=61 1CCF0-9=30",
    "1D15E=1D157.1D165,1D158.1D165,1D158.1D165.1D16E",
    "1D161=1D158.1D165.1D16F,1D158.1D165.1D170,1D158.1D165.1D171,1D158.1D165.1D172",
    "1D1BB=1D1B9.1D165",
    "1D1BC=1D1BA.1D165,1D1B9.1D165.1D16E,1D1BA.1D165.1D16E,1D1B9.1D165.1D16F,1D1BA.1D165.1D16F",
    "1D400-19=61 1D41A-33=61 1D434-4D=61 1D44E-66/2=61 1D44F-53/2=62 1D457-67/2=6A 1D468-81=61",
    "1D482-9B=61 1D49C-E/2=61 1D49F:d 1D4A2:g 1D4A5:jk 1D4A9-C=6E 1D4AE-B5=73 1D4B6-9=61",
    "1D4BB-CF/2=66 1D4BE-C2/2=69 1D4C6-E/2=71 1D4D0-E9=61 1D4EA-503=61 1D504:ab 1D507-A=64",
    "1D50D-14=6A 1D516-C=73 1D51E-37=61 1D538:ab 1D53B-E=64 1D540-4=69 1D546:o 1D54A-50=73",
    "1D552-6B=61 1D56C-85=61 1D586-9F=61 1D5A0-B9=61 1D5BA-D3=61 1D5D4-ED=61 1D5EE-607=61",
    "1D608-21=61 1D622-3B=61 1D63C-55=61 1D656-6F=61 1D670-89=61 1D68A-A3=61 1D6A4:ıȷ",
    "1D6A8-B8=3B1 1D6B9:θ 1D6BA-C0=3C3 1D6C1:∇ 1D6C2-D2=3B1 1D6D3:σ 1D6D4-A=3C3 1D6DB:∂εθκφρπ",
    "1D6E2-F2=3B1 1D6F3:θ 1D6F4-A=3C3 1D6FB:∇ 1D6FC-70C=3B1 1D70D:σ 1D70E-14=3C3 1D715:∂εθκφρπ",
    "1D71C-2C=3B1 1D72D:θ 1D72E-34=3C3 1D735:∇ 1D736-46=3B1 1D747:σ 1D748-E=3C3 1D74F:∂εθκφρπ",
    "1D756-66=3B1 1D767:θ 1D768-E=3C3 1D76F:∇ 1D770-80=3B1 1D781:σ 1D782-8=3C3 1D789:∂εθκφρπ",
    "1D790-A0=3B1 1D7A1:θ 1D7A2-8=3C3 1D7A9:∇ 1D7AA-BA=3B1 1D7BB:σ 1D7BC-C2=3C3 1D7C3:∂εθκφρπϝϝ",
    "1D7CE-D7=30 1D7D8-E1=30 1D7E2-B=30 1D7EC-F5=30 1D7F6-F=30 1E030-8=430 1E039:клм 1E03C-46=43E",
    "1E047:ыэюꚉәіјөүӏ 1E051-9=430 1E05A:клопс 1E05F-64=443 1E065:ъыґіѕџҫꙑұ 1E900-21=1E922",
    "1EE00=627,628,62C,62F 1EE05=648,632,62D,637,64A 1EE0A-D=643",
    "1EE0E=633,639,641,635,642,631,634,62A,62B,62E,630,636,638,63A,66E,6BA,6A1,66F 1EE21=628,62C",
    "1EE24=647 1EE27=62D 1EE29=64A 1EE2A-D=643 1EE2E=633,639,641,635,642 1EE34=634,62A,62B,62E",
    "1EE39=636 1EE3B=63A 1EE42=62C 1EE47=62D 1EE49=64A 1EE4B-D/2=644 1EE4E=633,639 1EE51=635,642",
    "1EE54=634 1EE57=62E 1EE59=636 1EE5B=63A 1EE5D=6BA 1EE5F=66F 1EE61=628,62C 1EE64=647",
    "1EE67=62D,637,64A 1EE6A-C/2=643 1EE6D=646,633,639,641,635,642 1EE74=634,62A,62B,62E",
    "1EE79=636,638,63A,66E 1EE7E=6A1 1EE80=627,628,62C,62F,647,648,632,62D,637,64A",
    "1EE8B=644,645,646,633,639,641,635,642,631,634,62A,62B,62E,630,636,638,63A 1EEA1=628,62C,62F",
    "1EEA5=648,632,62D,637,64A",
    "1EEAB=644,645,646,633,639,641,635,642,631,634,62A,62B,62E,630,636,638,63A",
    "1F101=30.2C,31.2C,32.2C,33.2C,34.2C,35.2C,36.2C,37.2C,38.2C,39.2C",
    "1F110:(a),(b),(c),(d),(e),(f),(g),(h),(i),(j),(k),(l),(m),(n),(o)",
    "1F11F:(p),(q),(r),(s),(t),(u),(v),(w),(x),(y),(z),〔s〕,c,r,cd,wz 1F130-49=61",
    "1F14A:hv,mv,sd,ss,ppv,wc 1F16A:mc,md,mr 1F190=64.6A 1F200:ほか,ココ,サ",
    "1F210:手字双デ二多解天",
    "1F218:交映無料前後再新初終生販声吹演投捕一三遊左中右指走打禁空合満有月申割営配",
    "1F240:〔本〕,〔三〕,〔二〕,〔安〕,〔点〕,〔打〕,〔盗〕,〔勝〕,〔敗〕 1F250:得可 1FBF0-9=30",
    "2F800:丽丸乁𠄢你侮侻倂偺備僧像",
    "2F80C:㒞𠘺免兔兤具𠔜㒹內再𠕋冗冤仌冬况𩇟凵刃㓟刻剆割剷㔕勇勉勤勺包匆北卉卑博即",
    "2F830-2/2=537D 2F831:卿",
    "2F833:卿𠨬灰及叟𠭣叫叱吆咞吸呈周咢哶唐啓啣善善喙喫喳嗂圖嘆圗噑噴切壮城埴堍型堲",
    "2F857:報墬𡓤売壷夆多夢奢𡚨𡛪姬娛娧姘婦㛮㛼嬈嬾嬾𡧈寃寘寧寳𡬘寿将当尢㞁屠屮峀岍",
    "2F87B-D/2=21DE4 2F87C:嵃 2F87E:嵮嵫嵼巡巢㠯巽帨帽幩㡢𢆃㡼庰庳庶廊𪎒廾𢌱",
    "2F892:𢌱舁弢弢㣇𣊸𦇚形彫㣣徚忍志忹悁㤺㤜悔𢛔惇慈慌慎慌慺憎憲憤憯懞懲懶成戛扝抱",
    "2F8B6:拔捐𢬌挽拼捨掃揤𢯱搢揅掩㨮摩摾撝摷㩬敏敬𣀊旣書晉㬙暑㬈㫤冒冕最暜肭䏙朗望",
    "2F8DA:朡杞杓𣏃㭉柺枅桒梅𣑭梎栟椔㮝楂榣槪檨𣚣櫛㰘次𣢧歔㱎歲殟殺殻𣪍𡴋𣫺汎𣲼沿泍",
    "2F8FE:汧洖派海流浩浸涅𣴞洴港湮㴳滋滇𣻑淹潮𣽞𣾎濆瀹瀞瀛㶖灊災灷炭𠔥煅𤉣熜𤎫爨爵",
    "2F922:牐𤘈犀犕𤜵𤠔獺王㺬玥㺸㺸瑇瑜瑱璅瓊㼛甤𤰶甾𤲒異𢆟瘐𤾡𤾸𥁄㿼䀈直𥃳𥃲𥄙𥄳眞",
    "2F946:真真睊䀹瞋䁆䂖𥐝硎碌磌䃣𥘦祖𥚚𥛅福秫䄯穀穊穏𥥼𥪧𥪧竮䈂𥮫篆築䈧𥲀糒䊠糨糣",
    "2F96A:紀𥾆絣䌁緇縂繅䌴𦈨𦉇䍙𦋙罺𦌾羕翺者𦓚𦔣聠𦖨聰𣍟䏕育脃䐋脾媵𦞧𦞵𣎓𣎜舁舄辞",
    "2F98E:䑫芑芋芝劳花芳芽苦𦬼若茝荣莭茣莽菧著荓菊菌菜𦰶𦵫𦳕䔫蓱蓳蔖𧏊蕤𦼬䕝䕡𦾱𧃒",
    "2F9B2:䕫虐虜虧虩蚩蚈蜎蛢蝹蜨蝫螆䗗蟡蠁䗹衠衣𧙧裗裞䘵裺㒻𧢮𧥦䚾䛇誠諭變豕𧲨貫賁",
    "2F9D6:贛起𧼯𠠄跋趼跰𠣞軔輸𨗒𨗭邔郱鄑𨜮鄛鈸鋗鋘鉼鏹鐕𨯺開䦕閷𨵷䧦雃嶲霣𩅅𩈚䩮䩶",
    "2F9FA:韠𩐊䪲𩒖頋頋頩𩖶飢䬳餩馧駂駾䯎𩬰鬒鱀鳽䳎䳭鵧𪃎䳸𪄅𪈎𪊑麻䵖黹黾鼅鼏鼖鼻𪘀"]).flatMap Fold.ofWord

/-- What a character is taken for; none if no name has it. -/
def fold? (c : Char) : Option (List Char) :=
  if isIn vacant c || isIn barred c then none
  else if isIn ignored c then some []
  else some ((folds.findSome? (·.image? c)).getD [c])

end PolicyServer.Host
