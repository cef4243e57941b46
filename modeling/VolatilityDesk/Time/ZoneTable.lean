import VolatilityDesk.Time.Zone
/-!
# Zones of the exchanges

The offsets of the zones that sessions are held in: every change since clocks there stopped
following the sun, and the yearly rule that has been in force since the last change listed.
-/

namespace VolatilityDesk

namespace ZoneTable

/-- The second Sunday of March to the first Sunday of November, at two in the morning. -/
def american (standard : Int) : SummerRule :=
  { standard := standard
    summer := standard + 3600
    begins := { month := 3, week := 2, weekday := 6, seconds := 7200 }
    ends := { month := 11, week := 1, weekday := 6, seconds := 7200 } }

/-- The clocks of New York. -/
def newYork : ZoneTable :=
  { name := "America/New_York"
    aliases := ["US/Eastern"]
    before := -17762
    base := -18000
    changes := [
      (2647011600, 0), (3731382000, 3600), (3749522400, 0), (3762831600, 3600), (3780972000, 0),
      (3794281200, 3600), (3813026400, 0), (3828150000, 3600), (3841452000, 0), (3860204400, 3600),
      (3872901600, 0), (3891654000, 3600), (3904956000, 0), (3923103600, 3600), (3936405600, 0),
      (3954553200, 3600), (3967855200, 0), (3986002800, 3600), (3999304800, 0), (4017452400, 3600),
      (4030754400, 0), (4049506800, 3600), (4062808800, 0), (4080956400, 3600), (4094258400, 0),
      (4112406000, 3600), (4125708000, 0), (4143855600, 3600), (4157157600, 0), (4175305200, 3600),
      (4188607200, 0), (4207359600, 3600), (4220056800, 0), (4238809200, 3600), (4252111200, 0),
      (4270258800, 3600), (4283560800, 0), (4301708400, 3600), (4315010400, 0), (4333158000, 3600),
      (4346460000, 0), (4364607600, 3600), (4377909600, 0), (4396662000, 3600), (4409359200, 0),
      (4428111600, 3600), (4441413600, 0), (4459561200, 3600), (4472863200, 0), (4484444400, 3600),
      (4599266400, 0), (4617414000, 3600), (4630716000, 0), (4648863600, 3600), (4662165600, 0),
      (4680313200, 3600), (4693615200, 0), (4711762800, 3600), (4725064800, 0), (4743817200, 3600),
      (4756514400, 0), (4775266800, 3600), (4788568800, 0), (4806716400, 3600), (4820018400, 0),
      (4838166000, 3600), (4851468000, 0), (4869615600, 3600), (4882917600, 0), (4901065200, 3600),
      (4917391200, 0), (4933119600, 3600), (4948840800, 0), (4964569200, 3600), (4980290400, 0),
      (4996018800, 3600), (5011740000, 0), (5027468400, 3600), (5043189600, 0), (5058918000, 3600),
      (5075244000, 0), (5090972400, 3600), (5106693600, 0), (5122422000, 3600), (5138143200, 0),
      (5153871600, 3600), (5169592800, 0), (5185321200, 3600), (5201042400, 0), (5216770800, 3600),
      (5233096800, 0), (5248220400, 3600), (5264546400, 0), (5280274800, 3600), (5295996000, 0),
      (5311724400, 3600), (5327445600, 0), (5343174000, 3600), (5358895200, 0), (5374623600, 3600),
      (5390344800, 0), (5406073200, 3600), (5422399200, 0), (5438127600, 3600), (5453848800, 0),
      (5469577200, 3600), (5485298400, 0), (5491350000, 3600), (5516748000, 0), (5527033200, 3600),
      (5548197600, 0), (5563926000, 3600), (5580252000, 0), (5595375600, 3600), (5611701600, 0),
      (5627430000, 3600), (5643151200, 0), (5658879600, 3600), (5674600800, 0), (5690329200, 3600),
      (5706050400, 0), (5721778800, 3600), (5737500000, 0), (5753228400, 3600), (5769554400, 0),
      (5784678000, 3600), (5801004000, 0), (5816732400, 3600), (5832453600, 0), (5848182000, 3600),
      (5863903200, 0), (5879631600, 3600), (5895352800, 0), (5909266800, 3600), (5926802400, 0),
      (5940716400, 3600), (5958856800, 0), (5972166000, 3600), (5990306400, 0), (6003615600, 3600),
      (6021756000, 0), (6035670000, 3600), (6053205600, 0), (6067119600, 3600), (6084655200, 0),
      (6098569200, 3600), (6116709600, 0), (6130018800, 3600), (6148159200, 0), (6161468400, 3600),
      (6179608800, 0), (6193522800, 3600), (6211058400, 0), (6224972400, 3600), (6242508000, 0),
      (6256422000, 3600), (6273957600, 0), (6287871600, 3600), (6306012000, 0), (6319321200, 3600),
      (6337461600, 0), (6350770800, 3600), (6368911200, 0), (6382825200, 3600), (6400360800, 0),
      (6414274800, 3600), (6431810400, 0), (6445724400, 3600), (6463864800, 0), (6477174000, 3600),
      (6495314400, 0), (6508623600, 3600), (6526764000, 0), (6538258800, 3600)]
    rule := some (american (-18000)) }

/-- The clocks of Los Angeles. -/
def losAngeles : ZoneTable :=
  { name := "America/Los_Angeles"
    aliases := ["US/Pacific"]
    before := -28378
    base := -28800
    changes := [
      (2647022400, 0), (3731392800, 3600), (3749533200, 0), (3762842400, 3600), (3780982800, 0),
      (4484455200, 3600), (4599277200, 0), (4676695260, 3600), (4702006800, 0), (4743824400, 3600),
      (4756525200, 0), (4775274000, 3600), (4788579600, 0), (4806723600, 3600), (4820029200, 0),
      (4838173200, 3600), (4851478800, 0), (4869622800, 3600), (4882928400, 0), (4901072400, 3600),
      (4914378000, 0), (4933126800, 3600), (4946432400, 0), (4964576400, 3600), (4977882000, 0),
      (4996026000, 3600), (5009331600, 0), (5027475600, 3600), (5040781200, 0), (5058925200, 3600),
      (5072230800, 0), (5090979600, 3600), (5103680400, 0), (5122429200, 3600), (5138154000, 0),
      (5153878800, 3600), (5169603600, 0), (5185328400, 3600), (5201053200, 0), (5216778000, 3600),
      (5233107600, 0), (5248227600, 3600), (5264557200, 0), (5280285600, 3600), (5296006800, 0),
      (5311735200, 3600), (5327456400, 0), (5343184800, 3600), (5358906000, 0), (5374634400, 3600),
      (5390355600, 0), (5406084000, 3600), (5422410000, 0), (5438138400, 3600), (5453859600, 0),
      (5469588000, 3600), (5485309200, 0), (5491360800, 3600), (5516758800, 0), (5527044000, 3600),
      (5548208400, 0), (5563936800, 3600), (5580262800, 0), (5595386400, 3600), (5611712400, 0),
      (5627440800, 3600), (5643162000, 0), (5658890400, 3600), (5674611600, 0), (5690340000, 3600),
      (5706061200, 0), (5721789600, 3600), (5737510800, 0), (5753239200, 3600), (5769565200, 0),
      (5784688800, 3600), (5801014800, 0), (5816743200, 3600), (5832464400, 0), (5848192800, 3600),
      (5863914000, 0), (5879642400, 3600), (5895363600, 0), (5909277600, 3600), (5926813200, 0),
      (5940727200, 3600), (5958867600, 0), (5972176800, 3600), (5990317200, 0), (6003626400, 3600),
      (6021766800, 0), (6035680800, 3600), (6053216400, 0), (6067130400, 3600), (6084666000, 0),
      (6098580000, 3600), (6116720400, 0), (6130029600, 3600), (6148170000, 0), (6161479200, 3600),
      (6179619600, 0), (6193533600, 3600), (6211069200, 0), (6224983200, 3600), (6242518800, 0),
      (6256432800, 3600), (6273968400, 0), (6287882400, 3600), (6306022800, 0), (6319332000, 3600),
      (6337472400, 0), (6350781600, 3600), (6368922000, 0), (6382836000, 3600), (6400371600, 0),
      (6414285600, 3600), (6431821200, 0), (6445735200, 3600), (6463875600, 0), (6477184800, 3600),
      (6495325200, 0), (6508634400, 3600), (6526774800, 0), (6538269600, 3600)]
    rule := some (american (-28800)) }

/-- The clocks of London. -/
def london : ZoneTable :=
  { name := "Europe/London"
    aliases := ["Europe/Belfast", "GB", "GB-Eire"]
    before := -75
    base := 0
    changes := [
      (1512000075, 0), (3672698400, 3600), (3684189600, 0), (3700519200, 3600), (3714516000, 0),
      (3730759200, 3600), (3747175200, 0), (3762813600, 3600), (3778624800, 0), (3794263200, 3600),
      (3812493600, 0), (3826317600, 3600), (3842128800, 0), (3857162400, 3600), (3874096800, 0),
      (3891031200, 3600), (3903732000, 0), (3921876000, 3600), (3935786400, 0), (3953930400, 3600),
      (3968445600, 0), (3985380000, 3600), (3999895200, 0), (4016224800, 3600), (4031344800, 0),
      (4048884000, 3600), (4063399200, 0), (4080333600, 3600), (4094848800, 0), (4111178400, 3600),
      (4126298400, 0), (4143232800, 3600), (4157748000, 0), (4174682400, 3600), (4189197600, 0),
      (4205527200, 3600), (4221252000, 0), (4238186400, 3600), (4252701600, 0), (4269031200, 3600),
      (4284151200, 0), (4301085600, 3600), (4315600800, 0), (4332535200, 3600), (4347050400, 0),
      (4363380000, 3600), (4378500000, 0), (4395434400, 3600), (4414183200, 0), (4422650400, 3600),
      (4460144400, 7200), (4468611600, 3600), (4489174800, 7200), (4500061200, 3600),
      (4520624400, 7200), (4532115600, 3600), (4552074000, 7200), (4566589200, 3600),
      (4583610000, 7200), (4592595600, 3600), (4599856800, 0), (4616186400, 3600), (4631306400, 0),
      (4645216800, 3600), (4647632400, 7200), (4657914000, 3600), (4665175200, 0),
      (4676666400, 3600), (4696624800, 0), (4709930400, 3600), (4728074400, 0), (4742589600, 3600),
      (4758919200, 0), (4774039200, 3600), (4790368800, 0), (4806093600, 3600), (4822423200, 0),
      (4837543200, 3600), (4852058400, 0), (4868388000, 3600), (4883508000, 0), (4900442400, 3600),
      (4914957600, 0), (4932496800, 3600), (4947012000, 0), (4963341600, 3600), (4978461600, 0),
      (4995396000, 3600), (5009911200, 0), (5026845600, 3600), (5041360800, 0), (5057690400, 3600),
      (5072810400, 0), (5087930400, 3600), (5106679200, 0), (5119380000, 3600), (5138128800, 0),
      (5151434400, 3600), (5169578400, 0), (5182279200, 3600), (5201028000, 0), (5213728800, 3600),
      (5232477600, 0), (5245178400, 3600), (5263927200, 0), (5276628000, 3600), (5295981600, 0),
      (5305658400, 3600), (5422384800, 0), (5434480800, 3600), (5453834400, 0), (5465930400, 3600),
      (5485284000, 0), (5497380000, 3600), (5516733600, 0), (5528829600, 3600), (5548183200, 0),
      (5560884000, 3600), (5579632800, 0), (5592333600, 3600), (5611082400, 0), (5623783200, 3600),
      (5643136800, 0), (5655232800, 3600), (5674586400, 0), (5686682400, 3600), (5706036000, 0),
      (5719338000, 3600), (5737482000, 0), (5750787600, 3600), (5768931600, 0), (5782237200, 3600),
      (5800381200, 0), (5813686800, 3600), (5832435600, 0), (5845741200, 3600), (5863885200, 0),
      (5877190800, 3600), (5895334800, 0), (5908640400, 3600), (5926784400, 0), (5940090000, 3600),
      (5958234000, 0), (5971539600, 3600), (5990288400, 0), (6002989200, 3600), (6021738000, 0),
      (6035043600, 3600), (6053187600, 0), (6066493200, 3600), (6084637200, 0), (6097942800, 3600),
      (6116086800, 0), (6129392400, 3600), (6147536400, 0), (6160842000, 3600), (6178986000, 0),
      (6192896400, 3600)]
    rule := some
      { standard := 0
        summer := 3600
        begins := { month := 3, week := 5, weekday := 6, seconds := 3600 }
        ends := { month := 10, week := 5, weekday := 6, seconds := 7200 } } }

/-- The clocks of Sydney. -/
def sydney : ZoneTable :=
  { name := "Australia/Sydney"
    aliases := ["Australia/ACT", "Australia/Canberra", "Australia/NSW"]
    before := 36292
    base := 36000
    changes := [
      (3000549308, 0), (3692102400, 3600), (3699273600, 0), (4481020800, 3600), (4488537600, 0),
      (4504262400, 3600), (4519987200, 0), (4536316800, 3600), (4551436800, 0), (5422348800, 3600),
      (5432630400, 0), (5453798400, 3600), (5464684800, 0), (5485248000, 3600), (5496134400, 0),
      (5516697600, 3600), (5527584000, 0), (5548147200, 3600), (5559638400, 0), (5580201600, 3600),
      (5591088000, 0), (5611651200, 3600), (5622537600, 0), (5643100800, 3600), (5653987200, 0),
      (5674550400, 3600), (5685436800, 0), (5706000000, 3600), (5716886400, 0), (5737449600, 3600),
      (5751360000, 0), (5769504000, 3600), (5780390400, 0), (5800953600, 3600), (5811840000, 0),
      (5832403200, 3600), (5843289600, 0), (5863852800, 3600), (5875948800, 0), (5894697600, 3600),
      (5907398400, 0), (5926752000, 3600), (5939452800, 0), (5958806400, 3600), (5970902400, 0),
      (5990256000, 3600), (6001142400, 0), (6021705600, 3600), (6032592000, 0), (6053155200, 3600),
      (6064041600, 0), (6084604800, 3600), (6096096000, 0), (6116659200, 3600), (6127545600, 0),
      (6148108800, 3600), (6158995200, 0), (6179558400, 3600), (6192864000, 0), (6211008000, 3600),
      (6224313600, 0), (6242457600, 3600), (6255763200, 0), (6273907200, 3600), (6287212800, 0),
      (6305961600, 3600), (6318662400, 0), (6331968000, 3600), (6350112000, 0), (6368860800, 3600),
      (6382166400, 0), (6400310400, 3600), (6413616000, 0), (6431760000, 3600), (6445065600, 0),
      (6463814400, 3600), (6476515200, 0), (6495264000, 3600), (6508569600, 0), (6526713600, 3600),
      (6539414400, 0), (6558163200, 3600)]
    rule := some
      { standard := 36000
        summer := 39600
        begins := { month := 10, week := 1, weekday := 6, seconds := 7200 }
        ends := { month := 4, week := 1, weekday := 6, seconds := 10800 } } }

/-- The clocks of Tokyo. -/
def tokyo : ZoneTable :=
  { name := "Asia/Tokyo"
    aliases := ["Japan"]
    before := 33539
    base := 32400
    changes := [
      (2776950000, 0), (4680860400, 3600), (4692351600, 0), (4709890800, 3600), (4723801200, 0),
      (4744364400, 3600), (4755250800, 0), (4775814000, 3600), (4786700400, 0)]
    rule := none }

/-- The clocks of Kolkata. -/
def kolkata : ZoneTable :=
  { name := "Asia/Kolkata"
    aliases := ["Asia/Calcutta"]
    before := 21208
    base := 0
    changes := [
      (1719425192, 21200), (2208967600, 19270), (3344956730, 19800), (4473081000, 23400),
      (4492603800, 19800), (4502025000, 23400), (4600517400, 19800)]
    rule := none }

/-- Universal time, on which clocks never change. -/
def universal : ZoneTable :=
  { name := "UTC"
    aliases := ["Etc/UCT", "Etc/UTC", "Etc/Universal", "Etc/Zulu", "UCT", "Universal", "Zulu"]
    before := 0
    base := 0
    changes := []
    rule := none }

/-- The zones with a table. -/
def all : List ZoneTable :=
  [newYork, losAngeles, london, sydney, tokyo, kolkata, universal]

end ZoneTable

end VolatilityDesk
