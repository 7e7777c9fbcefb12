/-
Composite characters.

Many letters with a mark are characters of their own.  A composite takes the place of the
letter and the mark wherever they meet, and is taken apart into them.  The rows are those
of the Unicode character database, version 17, by mark; the syllables of Hangul follow a
rule.
-/

namespace HttpGet

/-- Letters and the characters that one mark makes of them, in the same order. -/
structure Compositions where
  mark : Char
  letters : String
  wholes : String

namespace Compositions

/-- The characters that marks below U+0340 make. -/
def accents : List Compositions := [
  ⟨'\u0300', "AEINOUWYaeinouwy\u00A8ÂÊÔÜâêôüĂăĒēŌōƠ", "ÀÈÌǸÒÙẀỲàèìǹòùẁỳ\u1FEDẦỀỒǛầềồǜẰằḔḕṐṑỜ"⟩,
  ⟨'\u0300', "ơƯưΑΕΗΙΟΥΩαεηιουωϊϋЕИеиἀἁἈἉἐἑἘἙἠἡἨἩἰἱ", "ờỪừᾺῈῊῚῸῪῺὰὲὴὶὸὺὼῒῢЀЍѐѝἂἃἊἋἒἓἚἛἢἣἪἫἲἳ"⟩,
  ⟨'\u0300', "ἸἹὀὁὈὉὐὑὙὠὡὨὩ\u1FBF\u1FFE", "ἺἻὂὃὊὋὒὓὛὢὣὪὫ\u1FCD\u1FDD"⟩,
  ⟨'\u0301', "ACEGIKLMNOPRSUWYZacegiklmnoprsuwyz", "ÁĆÉǴÍḰĹḾŃÓṔŔŚÚẂÝŹáćéǵíḱĺḿńóṕŕśúẃýź"⟩,
  ⟨'\u0301', "\u00A8ÂÅÆÇÊÏÔÕØÜâåæçêïôõøüĂăĒēŌōŨũƠơƯ", "\u0385ẤǺǼḈẾḮỐṌǾǗấǻǽḉếḯốṍǿǘẮắḖḗṒṓṸṹỚớỨ"⟩,
  ⟨'\u0301', "ưΑΕΗΙΟΥΩαεηιουωϊϋϒГКгкἀἁἈἉἐἑἘἙἠἡἨἩἰἱἸ", "ứΆΈΉΊΌΎΏάέήίόύώΐΰϓЃЌѓќἄἅἌἍἔἕἜἝἤἥἬἭἴἵἼ"⟩,
  ⟨'\u0301', "ἹὀὁὈὉὐὑὙὠὡὨὩ\u1FBF\u1FFE", "ἽὄὅὌὍὔὕὝὤὥὬὭ\u1FCE\u1FDE"⟩,
  ⟨'\u0302', "ACEGHIJOSUWYZaceghijosuwyzẠạẸẹỌọ", "ÂĈÊĜĤÎĴÔŜÛŴŶẐâĉêĝĥîĵôŝûŵŷẑẬậỆệỘộ"⟩,
  ⟨'\u0303', "AEINOUVYaeinouvyÂÊÔâêôĂăƠơƯư", "ÃẼĨÑÕŨṼỸãẽĩñõũṽỹẪỄỖẫễỗẴẵỠỡỮữ"⟩,
  ⟨'\u0304', "AEGIOUYaegiouyÄÆÕÖÜäæõöüǪǫȦȧȮȯΑΙΥαιυИ", "ĀĒḠĪŌŪȲāēḡīōūȳǞǢȬȪǕǟǣȭȫǖǬǭǠǡȰȱᾹῙῩᾱῑῡӢ"⟩,
  ⟨'\u0304', "УиуḶḷṚṛ", "ӮӣӯḸḹṜṝ"⟩,
  ⟨'\u0306', "AEGIOUaegiouȨȩΑΙΥαιυАЕЖИУаежиуẠạ", "ĂĔĞĬŎŬăĕğĭŏŭḜḝᾸῘῨᾰῐῠӐӖӁЙЎӑӗӂйўẶặ"⟩,
  ⟨'\u0307', "ABCDEFGHIMNOPRSTWXYZabcdefghmnoprstwx", "ȦḂĊḊĖḞĠḢİṀṄȮṖṘṠṪẆẊẎŻȧḃċḋėḟġḣṁṅȯṗṙṡṫẇẋ"⟩,
  ⟨'\u0307', "yzŚśŠšſṢṣ𐗒𐗚", "ẏżṤṥṦṧẛṨṩ𐗉𐗤"⟩,
  ⟨'\u0308', "AEHIOUWXYaehiotuwxyÕõŪūΙΥιυϒІАЕЖЗИОУЧ", "ÄËḦÏÖÜẄẌŸäëḧïöẗüẅẍÿṎṏṺṻΪΫϊϋϔЇӒЁӜӞӤӦӰӴ"⟩,
  ⟨'\u0308', "ЫЭаежзиоучыэіӘәӨө", "ӸӬӓёӝӟӥӧӱӵӹӭїӚӛӪӫ"⟩,
  ⟨'\u0309', "AEIOUYaeiouyÂÊÔâêôĂăƠơƯư", "ẢẺỈỎỦỶảẻỉỏủỷẨỂỔẩểổẲẳỞởỬử"⟩,
  ⟨'\u030A', "AUauwy", "ÅŮåůẘẙ"⟩, ⟨'\u030B', "OUouУу", "ŐŰőűӲӳ"⟩,
  ⟨'\u030C', "ACDEGHIKLNORSTUZacdeghijklnorstuzÜüƷʒ", "ǍČĎĚǦȞǏǨĽŇǑŘŠŤǓŽǎčďěǧȟǐǰǩľňǒřšťǔžǙǚǮǯ"⟩,
  ⟨'\u030F', "AEIORUaeioruѴѵ", "ȀȄȈȌȐȔȁȅȉȍȑȕѶѷ"⟩, ⟨'\u0311', "AEIORUaeioru", "ȂȆȊȎȒȖȃȇȋȏȓȗ"⟩,
  ⟨'\u0313', "ΑΕΗΙΟΩαεηιορυω", "ἈἘἨἸὈὨἀἐἠἰὀῤὐὠ"⟩,
  ⟨'\u0314', "ΑΕΗΙΟΡΥΩαεηιορυω", "ἉἙἩἹὉῬὙὩἁἑἡἱὁῥὑὡ"⟩, ⟨'\u031B', "OUou", "ƠƯơư"⟩,
  ⟨'\u0323', "ABDEHIKLMNORSTUVWYZabdehiklmnorstuvwy", "ẠḄḌẸḤỊḲḶṂṆỌṚṢṬỤṾẈỴẒạḅḍẹḥịḳḷṃṇọṛṣṭụṿẉỵ"⟩,
  ⟨'\u0323', "zƠơƯư", "ẓỢợỰự"⟩, ⟨'\u0324', "Uu", "Ṳṳ"⟩, ⟨'\u0325', "Aa", "Ḁḁ"⟩,
  ⟨'\u0326', "STst", "ȘȚșț"⟩, ⟨'\u0327', "CDEGHKLNRSTcdeghklnrst", "ÇḐȨĢḨĶĻŅŖŞŢçḑȩģḩķļņŗşţ"⟩,
  ⟨'\u0328', "AEIOUaeiou", "ĄĘĮǪŲąęįǫų"⟩, ⟨'\u032D', "DELNTUdelntu", "ḒḘḼṊṰṶḓḙḽṋṱṷ"⟩,
  ⟨'\u032E', "Hh", "Ḫḫ"⟩, ⟨'\u0330', "EIUeiu", "ḚḬṴḛḭṵ"⟩,
  ⟨'\u0331', "BDKLNRTZbdhklnrtz", "ḆḎḴḺṈṞṮẔḇḏẖḵḻṉṟṯẕ"⟩,
  ⟨'\u0338', "<=>←→↔⇐⇒⇔∃∈∋∣∥∼≃≅≈≍≡≤≥≲≳≶≷≺≻≼≽⊂⊃⊆⊇⊑⊒⊢", "≮≠≯↚↛↮⇍⇏⇎∄∉∌∤∦≁≄≇≉≭≢≰≱≴≵≸≹⊀⊁⋠⋡⊄⊅⊈⊉⋢⋣⊬"⟩,
  ⟨'\u0338', "⊨⊩⊫⊲⊳⊴⊵", "⊭⊮⊯⋪⋫⋬⋭"⟩]

/-- The characters that other marks make. -/
def others : List Compositions := [
  ⟨'\u0342', "\u00A8αηιυωϊϋἀἁἈἉἠἡἨἩἰἱἸἹὐὑὙὠὡὨὩ", "\u1FC1ᾶῆῖῦῶῗῧἆἇἎἏἦἧἮἯἶἷἾἿὖὗὟὦὧὮὯ"⟩,
  ⟨'\u0342', "\u1FBF\u1FFE", "\u1FCF\u1FDF"⟩,
  ⟨'\u0345', "ΑΗΩάήαηωώἀἁἂἃἄἅἆἇἈἉἊἋἌἍἎἏἠἡἢἣἤἥἦἧἨἩἪἫ", "ᾼῌῼᾴῄᾳῃῳῴᾀᾁᾂᾃᾄᾅᾆᾇᾈᾉᾊᾋᾌᾍᾎᾏᾐᾑᾒᾓᾔᾕᾖᾗᾘᾙᾚᾛ"⟩,
  ⟨'\u0345', "ἬἭἮἯὠὡὢὣὤὥὦὧὨὩὪὫὬὭὮὯὰὴὼᾶῆῶ", "ᾜᾝᾞᾟᾠᾡᾢᾣᾤᾥᾦᾧᾨᾩᾪᾫᾬᾭᾮᾯᾲῂῲᾷῇῷ"⟩,
  ⟨'\u0653', "\u0627", "\u0622"⟩,
  ⟨'\u0654', "\u0627\u0648\u064A\u06C1\u06D2\u06D5", "\u0623\u0624\u0626\u06C2\u06D3\u06C0"⟩,
  ⟨'\u0655', "\u0627", "\u0625"⟩, ⟨'\u093C', "नरळ", "ऩऱऴ"⟩, ⟨'\u09BE', "\u09C7", "\u09CB"⟩,
  ⟨'\u09D7', "\u09C7", "\u09CC"⟩, ⟨'\u0B3E', "\u0B47", "\u0B4B"⟩, ⟨'\u0B56', "\u0B47", "\u0B48"⟩,
  ⟨'\u0B57', "\u0B47", "\u0B4C"⟩, ⟨'\u0BBE', "\u0BC6\u0BC7", "\u0BCA\u0BCB"⟩,
  ⟨'\u0BD7', "ஒ\u0BC6", "ஔ\u0BCC"⟩, ⟨'\u0C56', "\u0C46", "\u0C48"⟩, ⟨'\u0CC2', "\u0CC6", "\u0CCA"⟩,
  ⟨'\u0CD5', "\u0CBF\u0CC6\u0CCA", "\u0CC0\u0CC7\u0CCB"⟩, ⟨'\u0CD6', "\u0CC6", "\u0CC8"⟩,
  ⟨'\u0D3E', "\u0D46\u0D47", "\u0D4A\u0D4B"⟩, ⟨'\u0D57', "\u0D46", "\u0D4C"⟩,
  ⟨'\u0DCA', "\u0DD9\u0DDC", "\u0DDA\u0DDD"⟩, ⟨'\u0DCF', "\u0DD9", "\u0DDC"⟩,
  ⟨'\u0DDF', "\u0DD9", "\u0DDE"⟩, ⟨'\u102E', "ဥ", "ဦ"⟩,
  ⟨'\u1B35', "ᬅᬇᬉᬋᬍᬑ\u1B3A\u1B3C\u1B3E\u1B3F\u1B42", "ᬆᬈᬊᬌᬎᬒ\u1B3B\u1B3D\u1B40\u1B41\u1B43"⟩,
  ⟨'\u3099', "うかきくけこさしすせそたちつてとはひふへほゝウカキクケコサシスセソタチツテ", "ゔがぎぐげござじずぜぞだぢづでどばびぶべぼゞヴガギグゲゴザジズゼゾダヂヅデ"⟩,
  ⟨'\u3099', "トハヒフヘホワヰヱヲヽ", "ドバビブベボヷヸヹヺヾ"⟩,
  ⟨'\u309A', "はひふへほハヒフヘホ", "ぱぴぷぺぽパピプペポ"⟩, ⟨'𑂺', "𑂙𑂛𑂥", "𑂚𑂜𑂫"⟩,
  ⟨'𑄧', "𑄱𑄲", "𑄮𑄯"⟩, ⟨'𑌾', "𑍇", "𑍋"⟩, ⟨'𑍗', "𑍇", "𑍌"⟩, ⟨'𑎸', "𑏂", "𑏇"⟩, ⟨'𑎻', "𑎄", "𑎅"⟩,
  ⟨'𑏂', "𑎎", "𑎎𑏅"⟩, ⟨'𑏉', "𑎂𑎐𑏂", "𑎃𑎑𑏈"⟩, ⟨'𑒰', "𑒹", "𑒼"⟩, ⟨'𑒺', "𑒹", "𑒻"⟩, ⟨'𑒽', "𑒹", "𑒾"⟩,
  ⟨'𑖯', "𑖸𑖹", "𑖺𑖻"⟩, ⟨'𑤰', "𑤵", "𑤸"⟩, ⟨'𖄞', "𖄞", "𖄡"⟩, ⟨'𖄟', "𖄡𖄡𖄩𖄩", "𖄣𖄦𖄧𖄤"⟩, ⟨'𖄠', "𖄡𖄞", "𖄥𖄨"⟩,
  ⟨'𖄩', "𖄞", "𖄢"⟩, ⟨'𖵧', "𖵩𖵩", "𖵪𖵧𖵪"⟩]

/-- What the mark makes of a letter. -/
def whole? (r : Compositions) (letter : Char) : Option Char :=
  (r.letters.toList.zip r.wholes.toList).lookup letter

/-- The letter that the mark makes a character of. -/
def letter? (r : Compositions) (whole : Char) : Option Char :=
  (r.wholes.toList.zip r.letters.toList).lookup whole

end Compositions

/-! ### Hangul -/

namespace Hangul

/-- The syllable of a leading consonant and a vowel, or of a syllable without a trailing
consonant and one. -/
def syllable? (first second : Nat) : Option Nat :=
  if 0x1100 ≤ first ∧ first ≤ 0x1112 ∧ 0x1161 ≤ second ∧ second ≤ 0x1175 then
    some (0xAC00 + ((first - 0x1100) * 21 + (second - 0x1161)) * 28)
  else if 0xAC00 ≤ first ∧ first ≤ 0xD7A3 ∧ (first - 0xAC00) % 28 = 0 ∧
      0x11A8 ≤ second ∧ second ≤ 0x11C2 then
    some (first + (second - 0x11A7))
  else none

/-- The two parts of a syllable. -/
def parts? (n : Nat) : Option (Nat × Nat) :=
  if 0xAC00 ≤ n ∧ n ≤ 0xD7A3 then
    let i := n - 0xAC00
    if i % 28 = 0 then some (0x1100 + i / 588, 0x1161 + i % 588 / 28)
    else some (n - i % 28, 0x11A7 + i % 28)
  else none

end Hangul

/-- The character that two characters make together. -/
def composite? (first second : Char) : Option Char :=
  let n := second.toNat
  if n < 0x300 then none
  else if n < 0x340 then
    Compositions.accents.findSome? fun r => if r.mark = second then r.whole? first else none
  else
    ((Hangul.syllable? first.toNat n).map Char.ofNat).or
      (Compositions.others.findSome? fun r => if r.mark = second then r.whole? first else none)

/-- The two characters that a character is made of. -/
def parts? (c : Char) : Option (Char × Char) :=
  let n := c.toNat
  if n < 0xC0 then none
  else
    ((Hangul.parts? n).map fun p => (Char.ofNat p.1, Char.ofNat p.2)).or
      ((Compositions.accents ++ Compositions.others).findSome? fun r =>
        (r.letter? c).map (·, r.mark))

/-- Nothing is joined to what comes before it but marks and parts of syllables. -/
theorem composite?_of_lt {first second : Char} (h : second.toNat < 0x300) :
    composite? first second = none := by
  unfold composite?
  simp [h]

/-- The characters of ASCII have no parts. -/
theorem parts?_of_lt {c : Char} (h : c.toNat < 0xC0) : parts? c = none := by
  unfold parts?
  simp [h]

example : composite? 'e' '\u0301' = some 'é' ∧ composite? '\u1100' '\u1161' = some '가' ∧
    parts? '각' = some ('가', '\u11A8') ∧ parts? 'e' = none := by decide +kernel

end HttpGet
